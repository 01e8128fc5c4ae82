/-!
# Paths

A path is kept as it is written.  Joining, parents and comparison look at its parts, the texts
between slashes: empty parts and single dots count for nothing, except that a slash at the
start makes a path absolute and a dot at the start of a relative path is a part.
-/

namespace SearchQuery

/-- A path as written. -/
structure Path where
  text : String
  deriving DecidableEq, Repr

namespace Path

/-- Whether the path begins at the root. -/
def isAbsolute (path : Path) : Bool :=
  path.text.toList.head? = some '/'

/-- A path seen from a directory: an absolute path stands for itself, any other is written
after the directory and a slash. -/
def join (directory path : Path) : Path :=
  if path.isAbsolute then path
  else
    match directory.text.toList.getLast? with
    | none | some '/' => ⟨directory.text ++ path.text⟩
    | some _ => ⟨directory.text ++ "/" ++ path.text⟩

/-- The texts between slashes. -/
def splitSlashes : List Char → List (List Char)
  | [] => [[]]
  | c :: cs =>
    if c = '/' then [] :: splitSlashes cs
    else
      match splitSlashes cs with
      | [] => [[c]]
      | part :: parts => (c :: part) :: parts

/-- The number of characters that begin the path without naming a file: a slash, or a dot that
is a part of its own. -/
def leadLength : List Char → Nat
  | '/' :: _ | ['.'] | '.' :: '/' :: _ => 1
  | _ => 0

/-- Drops slashes and parts that are single dots from the end of a path, which is given
backwards. -/
def dropEmptyEnd : List Char → List Char
  | '/' :: cs => dropEmptyEnd cs
  | ['.'] => []
  | '.' :: '/' :: cs => dropEmptyEnd cs
  | cs => cs

/-- Drops the last part and what separates it, from a path given backwards. -/
def dropPart (cs : List Char) : List Char :=
  dropEmptyEnd ((cs.dropWhile (· ≠ '/')).drop 1)

/-- The directory of a path; the root and the empty path have none. -/
def parent? (path : Path) : Option Path :=
  let cs := path.text.toList
  let lead := cs.take (leadLength cs)
  match dropEmptyEnd (cs.drop (leadLength cs)).reverse with
  | [] => if lead = ['.'] then some ⟨""⟩ else none
  | body => some ⟨String.ofList (lead ++ (dropPart body).reverse)⟩

/-- Dropping the end of a path adds no character. -/
theorem length_dropEmptyEnd_le (cs : List Char) : (dropEmptyEnd cs).length ≤ cs.length := by
  fun_induction dropEmptyEnd cs <;> simp_all <;> omega

/-- Dropping a part drops a character. -/
theorem length_dropPart_lt {c : Char} {cs : List Char} :
    (dropPart (c :: cs)).length < (c :: cs).length := by
  have inner := length_dropEmptyEnd_le (((c :: cs).dropWhile (· ≠ '/')).drop 1)
  have outer : ((c :: cs).dropWhile (· ≠ '/')).length ≤ (c :: cs).length :=
    (List.dropWhile_sublist _).length_le
  rw [List.length_drop] at inner
  simp only [dropPart, List.length_cons] at *
  omega

/-- The directory of a path is written with fewer characters. -/
theorem length_parent?_lt {path parent : Path} (found : path.parent? = some parent) :
    parent.text.length < path.text.length := by
  simp only [parent?] at found
  have kept := length_dropEmptyEnd_le
    (path.text.toList.drop (leadLength path.text.toList)).reverse
  have whole : path.text.toList.length = path.text.length := String.length_toList
  cases body : dropEmptyEnd (path.text.toList.drop (leadLength path.text.toList)).reverse with
  | nil =>
    simp only [body] at found
    split at found
    · rename_i lead
      obtain rfl := Option.some.inj found
      have : 0 < path.text.toList.length := by
        cases h : path.text.toList with
        | nil => simp [h] at lead
        | cons => simp
      simp only [String.length_empty]
      omega
    · simp at found
  | cons c cs =>
    simp only [body] at found
    obtain rfl := Option.some.inj found
    have := @length_dropPart_lt c cs
    rw [body] at kept
    simp only [List.length_reverse, List.length_drop] at kept
    simp only [String.length_ofList, List.length_append, List.length_take, List.length_reverse]
    omega

/-- A path and the directories above it, nearest first. -/
def ancestors (path : Path) : List Path :=
  match _above : path.parent? with
  | none => [path]
  | some parent => path :: ancestors parent
termination_by path.text.length
decreasing_by exact length_parent?_lt _above

/-- Whether a part counts. -/
def isPart (part : List Char) : Bool :=
  part ≠ [] && part ≠ ['.']

/-- The start of a path and its parts. -/
def components (path : Path) : List Char × List (List Char) :=
  let cs := path.text.toList
  (cs.take (leadLength cs), (splitSlashes (cs.drop (leadLength cs))).filter isPart)

/-- Whether two paths have the same parts. -/
def same (path other : Path) : Bool :=
  path.components = other.components

end Path

end SearchQuery
