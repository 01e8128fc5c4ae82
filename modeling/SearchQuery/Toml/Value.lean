import SearchQuery.Decimal.Binary64

/-!
# TOML values

A TOML document is a table.  Tables keep their entries in increasing order of the keys, and
remember how they came to be, because that decides whether a later line may add to them.
-/

namespace SearchQuery.Toml

/-- How a table came to be. -/
inductive Origin where
  /-- By a header of its own, or as the document itself. -/
  | header
  /-- On the way to the table of a header. -/
  | parent
  /-- On the way to the last key of a dotted key. -/
  | dotted
  /-- Between braces. -/
  | braces
  deriving DecidableEq, Repr

/-- A TOML value. -/
inductive Value where
  | string (text : String)
  /-- An integer; its value is missing if the text has the form of one but writes no number. -/
  | integer (value : Option Int)
  /-- A float; its value is missing if the number is too large. -/
  | float (value : Option Binary64)
  | boolean (b : Bool)
  | dateTime (text : String)
  | array (items : List Value)
  /-- An array of tables with headers of their own: the last one, to which later lines may add,
  and those before it, nearest first. -/
  | tables (last : List (String × Value)) (earlier : List (List (String × Value)))
  | table (origin : Origin) (entries : List (String × Value))

/-- The entries of a table, in increasing order of the keys. -/
abbrev Entries := List (String × Value)

namespace Entries

/-- The value of a key. -/
def find? (entries : Entries) (key : String) : Option Value :=
  (List.find? (fun entry => entry.1 == key) entries).map Prod.snd

/-- Sets the value of a key. -/
def set (key : String) (value : Value) : Entries → Entries
  | [] => [(key, value)]
  | entry :: entries =>
    if key = entry.1 then (key, value) :: entries
    else if key < entry.1 then (key, value) :: entry :: entries
    else entry :: set key value entries

end Entries

namespace Value

/-- The elements of an array of either kind, in the order of the document. -/
def items? : Value → Option (List Value)
  | array items => some items
  | tables last earlier => some ((last :: earlier).reverse.map (table .header))
  | _ => none

mutual

/-- Whether all values within a value that hold no others satisfy the predicate. -/
def allScalars (p : Value → Bool) : Value → Bool
  | array items => allScalarsOfItems p items
  | tables last earlier => allScalarsOfEntries p last && allScalarsOfTables p earlier
  | table _ entries => allScalarsOfEntries p entries
  | value => p value

/-- Whether `allScalars` holds for every value of a list. -/
def allScalarsOfItems (p : Value → Bool) : List Value → Bool
  | [] => true
  | item :: items => allScalars p item && allScalarsOfItems p items

/-- Whether `allScalars` holds for every value of a table. -/
def allScalarsOfEntries (p : Value → Bool) : List (String × Value) → Bool
  | [] => true
  | (_, value) :: entries => allScalars p value && allScalarsOfEntries p entries

/-- Whether `allScalars` holds for every value of the tables. -/
def allScalarsOfTables (p : Value → Bool) : List (List (String × Value)) → Bool
  | [] => true
  | entries :: others => allScalarsOfEntries p entries && allScalarsOfTables p others

end

end Value

end SearchQuery.Toml
