/-!
# Log records

What the readers report while they work, for whoever wants to follow it.
-/

namespace SearchQuery

/-- How detailed a log record is. -/
inductive LogLevel where
  | debug
  | trace
  deriving DecidableEq, Repr

/-- The name of a level. -/
def LogLevel.name : LogLevel → String
  | debug => "DEBUG"
  | trace => "TRACE"

/-- A log record: its level, the part of the program that it comes from, and its message. -/
structure LogRecord where
  level : LogLevel
  target : String
  message : String
  deriving DecidableEq, Repr

/-- A record on one line. -/
def LogRecord.line (record : LogRecord) : String :=
  record.level.name ++ " " ++ record.target ++ " " ++ record.message

end SearchQuery
