import Mathlib.Tactic.Lemma
import SearchQuery.Toml.Document

/-!
# The statements on single lines

What the readers make of the plainest lines: a header of one bare key, and a bare key with a value
on the same line.  Lines are read from first to last, so a document of such lines is read by taking
the statements of its lines together (`statements?_of_line`, `statements?_of_trivia`).
-/

namespace SearchQuery.Toml

variable {key text : String} {tokens rest left others : List Token} {first : Token} {value : Value}
  {statement : Statement} {done : List Statement}

/-- A bare key that no dot follows. -/
lemma readKey_bare (hkey : key.toList.all isKeyChar = true)
    (hrest : ∀ after, dropBlank rest ≠ .dot :: after) :
    readKey [] (.bare key :: rest) = some (([], key), ⟨rest, Nat.lt_succ_self _⟩) := by
  have hpart : (Token.bare key).keyPart? = some key := by rw [Token.keyPart?, if_pos hkey]
  rw [readKey]
  simp only [hpart]
  rw [if_neg (by decide)]

/-- A header of one bare key. -/
lemma readStatement_header (hkey : key.toList.all isKeyChar = true) :
    ∃ h, readStatement (.openBracket :: .bare key :: .closeBracket :: rest) =
      some (.table [] key, ⟨rest, h⟩) := by
  have hread : readKey [] (dropBlank (.bare key :: .closeBracket :: rest)) =
      some (([], key), ⟨.closeBracket :: rest, Nat.lt_succ_self _⟩) :=
    readKey_bare hkey (by simp [dropBlank])
  have hheader : ∃ h, readHeader 1 (.bare key :: .closeBracket :: rest) =
      some (([], key), ⟨rest, h⟩) := by
    rw [readHeader, hread]
    exact ⟨_, rfl⟩
  obtain ⟨h, hheader⟩ := hheader
  simp only [readStatement]
  rw [hheader]
  exact ⟨_, rfl⟩

/-- A bare key and a value, with a space on either side of the equals sign. -/
lemma readStatement_assign (hkey : key.toList.all isKeyChar = true)
    {hleft : left.length < rest.length} (hvalue : readValue 0 rest = some (value, ⟨left, hleft⟩)) :
    ∃ h, readStatement (.bare key :: .blank " " :: .equals :: .blank " " :: rest) =
      some (.assign [] key value, ⟨left, h⟩) := by
  have hread : readKey [] (.bare key :: .blank " " :: .equals :: .blank " " :: rest) =
      some (([], key), ⟨.blank " " :: .equals :: .blank " " :: rest, Nat.lt_succ_self _⟩) :=
    readKey_bare hkey (by simp [dropBlank])
  have hassign : ∃ h, readAssignment false 0
      (.bare key :: .blank " " :: .equals :: .blank " " :: rest) =
        some (([], key, value), ⟨left, h⟩) := by
    rw [readAssignment, hread]
    dsimp only
    split
    · next after hafter =>
      obtain rfl : .blank " " :: rest = after := (List.cons.inj hafter).2
      have hgap : readValue 0 (dropGap false (.blank " " :: rest)) =
          some (value, ⟨left, hleft⟩) := hvalue
      rw [hgap]
      refine ⟨?_, rfl⟩
      simp only [List.length_cons]
      omega
    · next hnone => exact absurd rfl (hnone _)
  obtain ⟨h, hassign⟩ := hassign
  simp only [readStatement]
  rw [hassign]
  exact ⟨_, rfl⟩

/-- A bare key and a value in quotes. -/
lemma readStatement_assign_quoted (hkey : key.toList.all isKeyChar = true) :
    ∃ h, readStatement (.bare key :: .blank " " :: .equals :: .blank " " :: .quoted text false ::
      rest) = some (.assign [] key (.string text), ⟨rest, h⟩) := by
  have hvalue : readValue 0 (.quoted text false :: rest) =
      some (.string text, ⟨rest, Nat.lt_succ_self _⟩) := by rw [readValue]
  exact readStatement_assign hkey hvalue

/-- A bare key and a bare value that ends its line. -/
lemma readStatement_assign_bare (hkey : key.toList.all isKeyChar = true)
    (h : scalar? text = some value) :
    ∃ h, readStatement (.bare key :: .blank " " :: .equals :: .blank " " :: .bare text ::
      .newline :: rest) = some (.assign [] key value, ⟨.newline :: rest, h⟩) := by
  have hscalar : scalarText text (.newline :: rest) = (text, .newline :: rest) := by
    simp [scalarText, bareText]
  have hbound : (Token.newline :: rest).length < (Token.bare text :: .newline :: rest).length :=
    Nat.lt_succ_self _
  have hvalue : readValue 0 (.bare text :: .newline :: rest) =
      some (value, ⟨.newline :: rest, hbound⟩) := by
    rw [readValue]
    simp only [hscalar, h]
    rfl
  exact readStatement_assign hkey hvalue

/-! ## Documents -/

/-- A text in which no statement is left. -/
lemma statements?_of_trivia (h : dropTrivia tokens = []) :
    statements? done tokens = some done.reverse := by
  rw [statements?]
  split
  · rfl
  · next hfirst => simp [h] at hfirst

/-- The statement of the next line that has one. -/
lemma statements?_of_line (hstart : dropTrivia tokens = first :: rest)
    (hstatement : ∃ h, readStatement (first :: rest) = some (statement, ⟨.newline :: others, h⟩)) :
    statements? done tokens = statements? (statement :: done) others := by
  obtain ⟨h, hstatement⟩ := hstatement
  rw [statements?]
  split
  · next hnone => simp [hstart] at hnone
  · next first' rest' hfirst =>
    obtain ⟨rfl, rfl⟩ := List.cons.inj (hstart.symm.trans hfirst)
    rw [hstatement]
    dsimp only
    split
    · next hnone => cases hnone
    · next others' hothers =>
      obtain rfl := Option.some.inj hothers
      rfl

end SearchQuery.Toml
