import SearchQuery.Text.CodeRanges

/-!
# Columns of a fixed-width display

The token table lines its cells up by display columns.  Every character takes one column but
the wide ones, which take two, and those that join the character after them.
-/

namespace SearchQuery

/-- The word characters that take two columns. -/
def wideRanges : CodeRanges where
  ranges := #[
    (0x1100, 0x115F), (0x17A4, 0x17A4), (0x3005, 0x3007), (0x3021, 0x3029), (0x3031, 0x3035),
    (0x3038, 0x303C), (0x3041, 0x3096), (0x309D, 0x309F), (0x30A1, 0x30FA), (0x30FC, 0x30FF),
    (0x3105, 0x312F), (0x3131, 0x3163), (0x3165, 0x318E), (0x31A0, 0x31BF), (0x31F0, 0x31FF),
    (0x3400, 0x4DBF), (0x4E00, 0xA48C), (0xA960, 0xA97C), (0xAC00, 0xD7A3), (0xF900, 0xFA6D),
    (0xFA70, 0xFAD9), (0xFF21, 0xFF3A), (0xFF41, 0xFF5A), (0x16FE0, 0x16FE1), (0x16FE3, 0x16FE3),
    (0x17000, 0x187F7), (0x18800, 0x18CD5), (0x18CFF, 0x18D08), (0x1AFF0, 0x1AFF3),
    (0x1AFF5, 0x1AFFB), (0x1AFFD, 0x1AFFE), (0x1B000, 0x1B122), (0x1B132, 0x1B132),
    (0x1B150, 0x1B152), (0x1B155, 0x1B155), (0x1B164, 0x1B167), (0x1B170, 0x1B2FB),
    (0x20000, 0x2A6DF), (0x2A700, 0x2B739), (0x2B740, 0x2B81D), (0x2B820, 0x2CEA1),
    (0x2CEB0, 0x2EBE0), (0x2EBF0, 0x2EE5D), (0x2F800, 0x2FA1D), (0x30000, 0x3134A),
    (0x31350, 0x323AF)]

/-- The columns that a character takes. -/
def columns (c : Char) : Nat :=
  if wideRanges.holds c then 2 else 1

/-! ### Ligatures

Some letters share their columns with the letter before them, in three scripts: an Arabic lam and
an alef after it are written as one letter, two Lisu tone letters of different series are one tone,
and the Kirat Rai vowels of more than one part take the columns of one.
-/

/-- The Arabic letters that are an alef with or without a mark. -/
def alefRanges : CodeRanges where
  ranges := #[
    (0x622, 0x623), (0x625, 0x625), (0x627, 0x627), (0x671, 0x673), (0x675, 0x675),
    (0x773, 0x774), (0x870, 0x882)]

/-- The Arabic letters that are a lam with or without a mark. -/
def lamRanges : CodeRanges where
  ranges := #[
    (0x644, 0x644), (0x6B5, 0x6B8), (0x76A, 0x76A), (0x8A6, 0x8A6), (0x8C7, 0x8C7)]

/-- The Lisu tone letters that may come first in a tone of two letters. -/
def firstToneRanges : CodeRanges where
  ranges := #[(0xA4F8, 0xA4FB)]

/-- The Lisu tone letters that may come second in a tone of two letters. -/
def secondToneRanges : CodeRanges where
  ranges := #[(0xA4FC, 0xA4FD)]

/-- What a text begins with, as far as a character before it may join it. -/
inductive Opening where
  /-- Nothing that joins. -/
  | other
  /-- An Arabic alef, which joins a lam. -/
  | alef
  /-- A Lisu tone letter that may come second in a tone. -/
  | secondTone
  /-- The Kirat Rai vowel sign e. -/
  | vowelE
  /-- The Kirat Rai vowel sign ai, or two signs e, which stand for it. -/
  | vowelAi
  deriving DecidableEq, Repr

namespace Opening

/-- What a text begins with whose first character is `c` and joins nothing after it. -/
def ofChar (c : Char) : Opening :=
  if alefRanges.holds c then alef
  else if secondToneRanges.holds c then secondTone
  else if c.toNat = 0x16D67 then vowelE
  else if c.toNat = 0x16D68 then vowelAi
  else other

/-- How a character joins a text: the columns that it adds to it, and what the longer text begins
with.  Nothing if it does not join.  Before a Kirat Rai sign e, the signs aa (`16D63`) and
o (`16D69`) make one vowel with it, a further sign e (`16D67`) makes the sign ai, and the sign ai
(`16D68`) makes the sign ai and leaves an e; before the sign ai, the sign aa makes one vowel. -/
def join? (opening : Opening) (c : Char) : Option (Nat × Opening) :=
  match opening with
  | other => none
  | alef => if lamRanges.holds c then some (0, other) else none
  | secondTone => if firstToneRanges.holds c then some (0, other) else none
  | vowelE =>
    if c.toNat = 0x16D63 || c.toNat = 0x16D69 then some (0, other)
    else if c.toNat = 0x16D67 then some (0, vowelAi)
    else if c.toNat = 0x16D68 then some (1, vowelE)
    else none
  | vowelAi => if c.toNat = 0x16D63 then some (0, other) else none

/-- The columns that a character adds to a text before which it stands, and what the longer text
begins with. -/
def extend (opening : Opening) (c : Char) : Nat × Opening :=
  (opening.join? c).getD (columns c, ofChar c)

end Opening

/-- The columns that characters take on one line, and what they begin with. -/
def widthAndOpening (cs : List Char) : Nat × Opening :=
  cs.foldr
    (fun c (width, opening) =>
      let (added, opening) := opening.extend c
      (width + added, opening))
    (0, .other)

/-- The columns that a text takes on one line. -/
def displayWidth (text : String) : Nat :=
  (widthAndOpening text.toList).1

end SearchQuery
