/-!
# Byte positions in a text

Positions in a query count bytes of its UTF-8 form, while people count characters.  This file
measures character lists in bytes and turns a byte position into the number of characters
before it.
-/

namespace SearchQuery

/-- The bytes that a list of characters takes in UTF-8. -/
def byteLength (cs : List Char) : Nat :=
  cs.foldl (fun size c => size + c.utf8Size) 0

/-- The number of characters before byte `position`, counting on from `count`; nothing if the
position lies inside a character or past the end. -/
def charactersBefore (count : Nat) : List Char → Nat → Option Nat
  | _, 0 => some count
  | [], _ + 1 => none
  | c :: cs, position + 1 =>
    if position + 1 < c.utf8Size then none
    else charactersBefore (count + 1) cs (position + 1 - c.utf8Size)

/-- No characters take no bytes. -/
@[simp] theorem byteLength_nil : byteLength [] = 0 := rfl

/-- Bytes may be counted from any number on. -/
theorem foldl_utf8Size (cs : List Char) (size : Nat) :
    cs.foldl (fun size c => size + c.utf8Size) size = size + byteLength cs := by
  induction cs generalizing size with
  | nil => rfl
  | cons c cs ih =>
    simp only [byteLength, List.foldl_cons]
    rw [ih, ih (0 + c.utf8Size)]
    omega

/-- The bytes of the first character and of the others. -/
@[simp] theorem byteLength_cons (c : Char) (cs : List Char) :
    byteLength (c :: cs) = c.utf8Size + byteLength cs := by
  rw [byteLength, List.foldl_cons, foldl_utf8Size]
  omega

/-- The bytes of two texts in turn. -/
@[simp] theorem byteLength_append (cs ds : List Char) :
    byteLength (cs ++ ds) = byteLength cs + byteLength ds := by
  induction cs with
  | nil => simp
  | cons c cs ih => simp [ih, Nat.add_assoc]

/-- The size of a text is that of its characters. -/
theorem utf8ByteSize_eq_byteLength (s : String) : s.utf8ByteSize = byteLength s.toList := by
  obtain ⟨cs, rfl⟩ : ∃ cs, s = String.ofList cs := ⟨s.toList, String.ofList_toList.symm⟩
  rw [String.toList_ofList]
  induction cs with
  | nil => rfl
  | cons c cs ih =>
    rw [String.ofList_cons, String.utf8ByteSize_append, String.utf8ByteSize_singleton, ih,
      byteLength_cons]

/-- The end of a prefix lies exactly after its characters. -/
theorem charactersBefore_append (cs ds : List Char) (count : Nat) :
    charactersBefore count (cs ++ ds) (byteLength cs) = some (count + cs.length) := by
  induction cs generalizing count with
  | nil => simp [charactersBefore]
  | cons c cs ih =>
    have positive : 0 < c.utf8Size := c.utf8Size_pos
    obtain ⟨n, size⟩ : ∃ n, c.utf8Size + byteLength cs = n + 1 :=
      ⟨c.utf8Size + byteLength cs - 1, by omega⟩
    have inside : ¬ n + 1 < c.utf8Size := by omega
    have rest : n + 1 - c.utf8Size = byteLength cs := by omega
    rw [List.cons_append, byteLength_cons, size, charactersBefore, if_neg inside, rest, ih]
    simp [Nat.add_comm, Nat.add_left_comm]

end SearchQuery
