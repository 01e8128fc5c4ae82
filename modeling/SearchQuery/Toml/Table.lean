import SearchQuery.Toml.Value

/-!
# Adding to TOML tables

Every line of a document adds to its tables.  No key may be given twice, and a table may be
written only in one way: by one header, by dotted keys within one table, or between braces.
-/

namespace SearchQuery.Toml

namespace Entries

/-- Gives a key its value.  The path leads to the table of the key, which only dotted keys may
have made; on the way there, an array of tables stands for its last table. -/
def assign (entries : Entries) (path : List String) (key : String) (value : Value) :
    Option Entries :=
  match path with
  | [] => if (entries.find? key).isNone then some (entries.set key value) else none
  | step :: rest =>
    match entries.find? step with
    | none =>
      (assign [] rest key value).map fun inner => entries.set step (.table .dotted inner)
    | some (.table .dotted inner) =>
      (assign inner rest key value).map fun inner => entries.set step (.table .dotted inner)
    | some (.table .parent inner) =>
      if rest.isEmpty then none
      else (assign inner rest key value).map fun inner => entries.set step (.table .parent inner)
    | some (.tables last earlier) =>
      if rest.isEmpty then none
      else (assign last rest key value).map fun last => entries.set step (.tables last earlier)
    | some _ => none

/-- Changes the table that a path of headers leads to, which is made if it is missing; an array
of tables stands for its last table. -/
def alter (change : Entries → Option Entries) : List String → Entries → Option Entries
  | [], entries => change entries
  | step :: rest, entries =>
    match entries.find? step with
    | none => (alter change rest []).map fun inner => entries.set step (.table .parent inner)
    | some (.table .braces _) => none
    | some (.table origin inner) =>
      (alter change rest inner).map fun inner => entries.set step (.table origin inner)
    | some (.tables last earlier) =>
      (alter change rest last).map fun last => entries.set step (.tables last earlier)
    | some _ => none

/-- Opens the table of a header: a new one, or one that was only on the way to others. -/
def openTable (key : String) (entries : Entries) : Option Entries :=
  match entries.find? key with
  | none => some (entries.set key (.table .header []))
  | some (.table .parent inner) => some (entries.set key (.table .header inner))
  | some _ => none

/-- Opens a further table of an array of tables. -/
def openElement (key : String) (entries : Entries) : Option Entries :=
  match entries.find? key with
  | none => some (entries.set key (.tables [] []))
  | some (.tables last earlier) => some (entries.set key (.tables [] (last :: earlier)))
  | some _ => none

end Entries

end SearchQuery.Toml
