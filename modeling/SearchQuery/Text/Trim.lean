/-!
# White space at the end of a text

The white space of the Unicode standard, and its removal from the end of a text.
-/

namespace SearchQuery

/-- A white space character in the sense of the Unicode standard. -/
def isWhiteSpace (c : Char) : Bool :=
  let n := c.toNat
  (9 ≤ n && n ≤ 13) || n == 0x20 || n == 0x85 || n == 0xA0 || n == 0x1680
    || (0x2000 ≤ n && n ≤ 0x200A) || n == 0x2028 || n == 0x2029 || n == 0x202F
    || n == 0x205F || n == 0x3000

/-- Drops the longest end of the list whose members all satisfy `p`. -/
def dropEndWhile (p : Char → Bool) (cs : List Char) : List Char :=
  (cs.reverse.dropWhile p).reverse

/-- A text without the white space at its end. -/
def trimWhiteSpaceEnd (text : String) : String :=
  String.ofList (dropEndWhile isWhiteSpace text.toList)

/-- What is dropped is exactly the longest end that satisfies the predicate. -/
theorem dropEndWhile_append (p : Char → Bool) (cs ds : List Char) (all : ∀ d ∈ ds, p d = true) :
    dropEndWhile p (cs ++ ds) = dropEndWhile p cs := by
  have dropped : ∀ es fs : List Char, (∀ e ∈ es, p e = true) →
      (es ++ fs).dropWhile p = fs.dropWhile p := by
    intro es fs
    induction es with
    | nil => simp
    | cons e es ih =>
      intro holds
      simp only [List.cons_append, List.dropWhile_cons, holds e (by simp), if_true]
      exact ih fun x hx => holds x (by simp [hx])
  simp only [dropEndWhile, List.reverse_append]
  rw [dropped]
  simpa using all

end SearchQuery
