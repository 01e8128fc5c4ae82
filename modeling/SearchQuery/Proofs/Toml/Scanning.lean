import Mathlib.Data.List.TakeWhile
import Mathlib.Tactic.Lemma
import SearchQuery.Toml.Statement

/-!
# The tokens of TOML text

What the first characters of a text are read as, one lemma for each kind of token.  A run of
characters is read as one token if what follows it ends the run, so a text that is put together
from such runs is read from left to right.  The runs that can be bare keys (`IsName`) are read as
they are, with quotes around them or without.
-/

namespace SearchQuery.Toml

/-- What follows does not go on a run of characters of this sort. -/
def EndsRun (p : Char → Bool) (cs : List Char) : Prop :=
  ∀ c ∈ cs.head?, p c = false

/-- The characters can be a bare key. -/
def IsName (w : List Char) : Prop :=
  w ≠ [] ∧ w.all isKeyChar = true

section

variable {p : Char → Bool} {done : List Token} {c mark : Char} {w cs : List Char} {token : Token}

/-! ## The characters of bare keys -/

/-- A character of a bare key is no other character. -/
lemma ne_of_isKeyChar (hc : isKeyChar c = true) (hmark : isKeyChar mark = false) : c ≠ mark := by
  rintro rfl
  exact Bool.false_ne_true (hmark.symm.trans hc)

/-- A character of a bare key may stand in a bare run. -/
lemma isBare_of_isKeyChar (hc : isKeyChar c = true) : isBare c = true := by
  have hne : ∀ mark, isKeyChar mark = false → c ≠ mark := fun mark => ne_of_isKeyChar hc
  simp [isBare, mark?, isLineBlank, hne, isKeyChar]

/-- A character of a bare key may stand in a string. -/
lemma isPlain_of_isKeyChar (hc : isKeyChar c = true) : isPlain c = true := by
  by_cases hascii : c.toNat < 128
  · have hall : ∀ n < 128, isKeyChar (Char.ofNat n) = true → isPlain (Char.ofNat n) = true := by
      decide
    have hplain := hall c.toNat hascii
    rw [Char.ofNat_toNat] at hplain
    exact hplain hc
  · have hrange : 32 ≤ c.toNat ∧ c.toNat ≠ 127 := by omega
    simp [isPlain, hrange]

/-- A name begins with a character of a bare key, and so it goes on. -/
lemma IsName.exists_cons (hw : IsName w) :
    ∃ c rest, w = c :: rest ∧ isKeyChar c = true ∧ ∀ d ∈ rest, isKeyChar d = true := by
  obtain ⟨hne, hall⟩ := hw
  obtain ⟨c, rest, rfl⟩ := List.exists_cons_of_ne_nil hne
  exact ⟨c, rest, rfl, List.forall_mem_cons.mp (List.all_eq_true.mp hall)⟩

/-! ## Tokens -/

/-- A run up to where it ends, and what follows it. -/
lemma takeWhile_dropWhile_run (hw : ∀ c ∈ w, p c = true) (hcs : EndsRun p cs) :
    (w ++ cs).takeWhile p = w ∧ (w ++ cs).dropWhile p = cs := by
  rw [List.takeWhile_append_of_pos hw, List.dropWhile_append_of_pos hw]
  rcases cs with _ | ⟨c, cs⟩
  · simp
  · have hc : p c = false := hcs c rfl
    simp [hc]

/-- All of a text is read, if it does not begin with a byte order mark. -/
lemma tokens?_eq_scan {text : String} (h : text.toList.head? ≠ some '\uFEFF') :
    tokens? text = scan [] text.toList := by
  unfold tokens?
  split
  · next cs hcs => simp [hcs] at h
  · rfl

/-- A line end. -/
lemma scan_newline : scan done ('\n' :: cs) = scan (.newline :: done) cs := by
  rw [scan, if_pos rfl]

/-- A single space. -/
lemma scan_space (hcs : EndsRun isLineBlank cs) :
    scan done (' ' :: cs) = scan (.blank " " :: done) cs := by
  obtain ⟨htake, hdrop⟩ := takeWhile_dropWhile_run (w := []) (by simp) hcs
  rw [List.nil_append] at htake hdrop
  rw [scan]
  simp [htake, hdrop, isLineBlank]

/-- A mark. -/
lemma scan_mark (h : mark? c = some token) : scan done (c :: cs) = scan (token :: done) cs := by
  have hc : c = '.' ∨ c = ',' ∨ c = '=' ∨ c = '[' ∨ c = ']' ∨ c = '\x7b' ∨ c = '\x7d' := by
    by_contra hnone
    simp only [not_or] at hnone
    simp [mark?, hnone] at h
  have hother : c ≠ '\n' ∧ c ≠ '\r' ∧ isLineBlank c = false ∧ c ≠ '#' ∧ c ≠ '"' ∧ c ≠ '\'' := by
    rcases hc with rfl | rfl | rfl | rfl | rfl | rfl | rfl <;> decide
  rw [scan]
  simp [hother, h]

/-- A name without quotes. -/
lemma scan_bare (hw : IsName w) (hcs : EndsRun isBare cs) :
    scan done (w ++ cs) = scan (.bare (String.ofList w) :: done) cs := by
  obtain ⟨c, rest, rfl, hc, hrest⟩ := hw.exists_cons
  obtain ⟨htake, hdrop⟩ :=
    takeWhile_dropWhile_run (fun d hd => isBare_of_isKeyChar (hrest d hd)) hcs
  have hquote : c ≠ '"' ∧ c ≠ '\'' :=
    ⟨ne_of_isKeyChar hc (by decide), ne_of_isKeyChar hc (by decide)⟩
  have hother : mark? c = none ∧ isLineBlank c = false ∧ c ≠ '\n' ∧ c ≠ '\r' ∧ c ≠ '#' := by
    simpa [isBare, and_assoc] using isBare_of_isKeyChar hc
  rw [List.cons_append, scan]
  simp [hother, hquote, htake, hdrop]

/-- A name goes on no blank. -/
lemma IsName.endsRun_isLineBlank (hw : IsName w) (cs : List Char) :
    EndsRun isLineBlank (w ++ cs) := by
  obtain ⟨c, rest, rfl, hc, -⟩ := hw.exists_cons
  rintro d ⟨⟩
  have hbare := isBare_of_isKeyChar hc
  simp only [isBare, Bool.and_eq_true, Bool.not_eq_true'] at hbare
  exact hbare.1.1.1.2

/-- A string without escapes is read up to its quote. -/
lemma read_text (hw : ∀ c ∈ w, isPlain c = true ∧ c ≠ '"' ∧ c ≠ '\\') (text : String) (used : Nat)
    (cs : List Char) :
    (Quoting.mk '"' false).read (.text 0) text used (w ++ '"' :: cs) =
      some (text ++ String.ofList w, used + w.length + 1) := by
  induction w generalizing text used with
  | nil => simp [Quoting.read, Quoting.step, Quoting.readText]
  | cons c w ih =>
    obtain ⟨hplain, hquote, hescape⟩ := hw c List.mem_cons_self
    have hstep : (Quoting.mk '"' false).step (.text 0) text c =
        some (.next (.text 0) (text.push c)) := by
      simp [Quoting.step, Quoting.readText, Quoting.addQuotes, hplain, hquote, hescape]
    have hpush : text.push c ++ String.ofList w = text ++ String.ofList (c :: w) := by
      apply String.toList_injective
      simp
    rw [List.cons_append, Quoting.read, hstep]
    dsimp only
    rw [ih (fun d hd => hw d (List.mem_cons_of_mem c hd)), hpush, List.length_cons]
    congr 2
    omega

/-- A name in quotes. -/
lemma scan_quoted (hw : IsName w) :
    scan done ('"' :: (w ++ '"' :: cs)) = scan (.quoted (String.ofList w) false :: done) cs := by
  have hplain : ∀ c ∈ w, isPlain c = true ∧ c ≠ '"' ∧ c ≠ '\\' := by
    intro c hc
    have hkey := List.all_eq_true.mp hw.2 c hc
    exact ⟨isPlain_of_isKeyChar hkey, ne_of_isKeyChar hkey (by decide),
      ne_of_isKeyChar hkey (by decide)⟩
  obtain ⟨first, rest, rfl, hfirst, -⟩ := hw.exists_cons
  have htake : ((first :: rest) ++ '"' :: cs).take 2 ≠ ['"', '"'] := by
    intro htake
    have hquote : first = '"' := by simpa using (List.cons.inj htake).1
    exact ne_of_isKeyChar hfirst (by decide) hquote
  have hread : readQuoted '"' ((first :: rest) ++ '"' :: cs) =
      some (String.ofList (first :: rest), false, (first :: rest).length + 1) := by
    rw [readQuoted, if_neg htake, read_text hplain]
    simp
  have hdrop : ((first :: rest) ++ '"' :: cs).drop ((first :: rest).length + 1) = cs := by
    simp [List.drop_append]
  rw [scan]
  simp only [hread, hdrop]
  rfl

/-- A line with a header of one bare key. -/
lemma scan_header (hw : IsName w) :
    scan done ('[' :: (w ++ ']' :: '\n' :: cs)) =
      scan (.newline :: .closeBracket :: .bare (String.ofList w) :: .openBracket :: done) cs := by
  have hend : EndsRun isBare (']' :: '\n' :: cs) := by
    rintro c ⟨⟩
    rfl
  have hopen : mark? '[' = some .openBracket := rfl
  have hclose : mark? ']' = some .closeBracket := rfl
  rw [scan_mark hopen, scan_bare hw hend, scan_mark hclose, scan_newline]

/-- A bare key and an equals sign, with a space on either side of it. -/
lemma scan_assignment (hw : IsName w) (hcs : EndsRun isLineBlank cs) :
    scan done (w ++ ' ' :: '=' :: ' ' :: cs) =
      scan (.blank " " :: .equals :: .blank " " :: .bare (String.ofList w) :: done) cs := by
  have hend : EndsRun isBare (' ' :: '=' :: ' ' :: cs) := by
    rintro c ⟨⟩
    rfl
  have hspace : EndsRun isLineBlank ('=' :: ' ' :: cs) := by
    rintro c ⟨⟩
    rfl
  have hequals : mark? '=' = some .equals := rfl
  rw [scan_bare hw hend, scan_space hspace, scan_mark hequals, scan_space hcs]

end

end SearchQuery.Toml
