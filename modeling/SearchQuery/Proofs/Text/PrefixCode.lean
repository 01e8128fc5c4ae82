import Mathlib.Tactic.Lemma
import SearchQuery.Json
import SearchQuery.Text.Quoted

/-!
# Prefix codes and escaped texts

In a prefix code, what is written for a value can be told from whatever follows it
(`IsPrefixCode`), so no two values are written alike.  Whatever can be read back is a prefix code
(`IsPrefixCode.of_read`), and so are texts between quotes whose characters can be read back
(`IsPrefixCode.quoted`).

There are two ways of escaping the characters of a text.  Both begin what is not the character
itself with a backslash (`readChar?`), and `Json.readEscape?` and `Quoted.readEscape?` undo what
follows it.  Thus a string in JSON (`Json.isPrefixCode_string`) and a quoted text in an outline
(`Quoted.isPrefixCode_string`) are prefix codes.  The latter does not go over the end of a line,
either (`Quoted.newline_not_mem_string`).
-/

namespace SearchQuery

/-! ## Codes that can be cut off -/

/-- What is written for a value, and where it ends, can be told whatever follows it. -/
def IsPrefixCode {α : Type} (code : α → List Char) : Prop :=
  ∀ ⦃a b : α⦄ ⦃r s : List Char⦄, code a ++ r = code b ++ s → a = b ∧ r = s

namespace IsPrefixCode

variable {α : Type} {code : α → List Char}

/-- What can be read back is a prefix code. -/
lemma of_read (read : List Char → Option (α × List Char))
    (hread : ∀ a rest, read (code a ++ rest) = some (a, rest)) : IsPrefixCode code := by
  intro a b r s h
  have hsame : some (a, r) = some (b, s) := by rw [← hread, h, hread]
  simpa using hsame

/-- No two values are written alike. -/
lemma injective (hcode : IsPrefixCode code) : Function.Injective code := by
  intro a b h
  exact (hcode (congrArg (· ++ []) h)).1

end IsPrefixCode

/-- A run in a class ends where the class does. -/
lemma span_append {p : Char → Bool} {run rest : List Char} (hrun : ∀ c ∈ run, p c = true)
    (hrest : ∀ c ∈ rest.head?, p c = false) :
    (run ++ rest).takeWhile p = run ∧ (run ++ rest).dropWhile p = rest := by
  rw [List.takeWhile_append_of_pos hrun, List.dropWhile_append_of_pos hrun]
  rcases rest with _ | ⟨c, rest⟩
  · simp
  · have hc : p c = false := hrest c rfl
    simp [hc]

/-- Runs in a class that end where the class does can be cut off. -/
lemma run_append_cancel {p : Char → Bool} {v w r s : List Char} (hv : ∀ c ∈ v, p c = true)
    (hw : ∀ c ∈ w, p c = true) (hr : ∀ c ∈ r.head?, p c = false) (hs : ∀ c ∈ s.head?, p c = false)
    (h : v ++ r = w ++ s) : v = w ∧ r = s := by
  obtain ⟨htake, hdrop⟩ := span_append hv hr
  obtain ⟨htake', hdrop'⟩ := span_append hw hs
  rw [h] at htake hdrop
  exact ⟨htake.symm.trans htake', hdrop.symm.trans hdrop'⟩

/-- What is written after a text, one character after the other. -/
lemma toList_foldl_append (code : Char → String) (cs : List Char) (out : String) :
    (cs.foldl (fun out c => out ++ code c) out).toList =
      out.toList ++ cs.flatMap fun c => (code c).toList := by
  induction cs generalizing out with
  | nil => exact (List.append_nil out.toList).symm
  | cons c cs ih =>
    rw [List.foldl_cons, ih, String.toList_append, List.flatMap_cons, List.append_assoc]

/-! ## Texts between quotes -/

/-- Reads back one character of a text: a backslash begins an escape, and any other character stands
for itself. -/
def readChar? (readEscape? : List Char → Option (Char × List Char)) :
    List Char → Option (Char × List Char)
  | [] => none
  | c :: rest => if c = '\\' then readEscape? rest else some (c, rest)

namespace IsPrefixCode

variable {code : Char → List Char} {readEscape? : List Char → Option (Char × List Char)}

/-- Where a quote is escaped, no character is written with a quote first. -/
lemma append_ne_quote (hread : ∀ c rest, readChar? readEscape? (code c ++ rest) = some (c, rest))
    (hquote : ∀ r s, code '"' ++ r ≠ '"' :: s) (c : Char) (r s : List Char) :
    code c ++ r ≠ '"' :: s := by
  intro h
  have hraw : readChar? readEscape? ('"' :: s) = some ('"', s) := rfl
  have hboth : some (c, r) = some ('"', s) := by rw [← hread, h, hraw]
  obtain rfl : c = '"' := (Prod.mk.inj (Option.some.inj hboth)).1
  exact hquote r s h

/-- Where no character is written with a quote first, a quote ends a text. -/
lemma flatMap_quote (hcode : IsPrefixCode code) (hne : ∀ c r s, code c ++ r ≠ '"' :: s)
    {cs ds r s : List Char}
    (h : cs.flatMap code ++ '"' :: r = ds.flatMap code ++ '"' :: s) : cs = ds ∧ r = s := by
  induction cs generalizing ds with
  | nil =>
    cases ds with
    | nil => exact ⟨rfl, (List.cons.inj h).2⟩
    | cons d ds =>
      rw [List.flatMap_cons, List.append_assoc] at h
      exact absurd h.symm (hne d _ _)
  | cons c cs ih =>
    cases ds with
    | nil =>
      rw [List.flatMap_cons, List.append_assoc] at h
      exact absurd h (hne c _ _)
    | cons d ds =>
      simp only [List.flatMap_cons, List.append_assoc] at h
      obtain ⟨rfl, hrest⟩ := hcode h
      obtain ⟨rfl, hend⟩ := ih hrest
      exact ⟨rfl, hend⟩

/-- Texts between quotes are a prefix code if their characters are read back. -/
lemma quoted (hread : ∀ c rest, readChar? readEscape? (code c ++ rest) = some (c, rest))
    (hquote : ∀ r s, code '"' ++ r ≠ '"' :: s) :
    IsPrefixCode fun text : String => '"' :: text.toList.flatMap code ++ ['"'] := by
  intro a b r s h
  simp only [List.cons_append, List.append_assoc, List.nil_append, List.cons.injEq,
    true_and] at h
  obtain ⟨hchars, hrest⟩ := flatMap_quote (of_read _ hread) (append_ne_quote hread hquote) h
  exact ⟨String.toList_inj.mp hchars, hrest⟩

end IsPrefixCode

/-! ## Hexadecimal digits -/

/-- The value of a lower-case hexadecimal digit. -/
def hexDigitValue (c : Char) : Nat :=
  ((List.range 16).find? fun n => Nat.digitChar n = c).getD 0

/-- The number that hexadecimal digits stand for. -/
def hexNumber (digits : List Char) : Nat :=
  digits.foldl (fun n c => 16 * n + hexDigitValue c) 0

/-- A hexadecimal digit is read back. -/
lemma hexDigitValue_digitChar {n : Nat} (hn : n < 16) : hexDigitValue (Nat.digitChar n) = n := by
  revert n
  decide

/-- A hexadecimal number is read back. -/
lemma hexNumber_toDigits (n : Nat) : hexNumber (Nat.toDigits 16 n) = n := by
  induction n using Nat.strongRecOn with
  | _ n ih =>
    rw [Nat.toDigits_eq_if (by decide)]
    split
    · next hn => simp [hexNumber, hexDigitValue_digitChar hn]
    · next hn =>
      have hlast : n % 16 < 16 := Nat.mod_lt n (by decide)
      have hfront : hexNumber (Nat.toDigits 16 (n / 16)) = n / 16 := ih (n / 16) (by omega)
      rw [hexNumber, List.foldl_append]
      rw [hexNumber] at hfront
      rw [hfront, List.foldl_cons, List.foldl_nil, hexDigitValue_digitChar hlast]
      omega

/-- A hexadecimal number is written with hexadecimal digits. -/
lemma exists_digitChar_of_mem_toDigits {n : Nat} {c : Char} (hc : c ∈ Nat.toDigits 16 n) :
    ∃ d < 16, c = Nat.digitChar d := by
  induction n using Nat.strongRecOn with
  | _ n ih =>
    rw [Nat.toDigits_eq_if (by decide)] at hc
    split at hc
    · next hn => exact ⟨n, hn, List.mem_singleton.mp hc⟩
    · next hn =>
      rcases List.mem_append.mp hc with hfront | hlast
      · exact ih (n / 16) (by omega) hfront
      · exact ⟨n % 16, Nat.mod_lt n (by decide), List.mem_singleton.mp hlast⟩

/-! ## Strings in JSON -/

namespace Json

/-- Reads back what follows a backslash in a string. -/
def readEscape? : List Char → Option (Char × List Char)
  | '"' :: rest => some ('"', rest)
  | '\\' :: rest => some ('\\', rest)
  | 'n' :: rest => some ('\n', rest)
  | 'r' :: rest => some ('\r', rest)
  | 't' :: rest => some ('\t', rest)
  | 'b' :: rest => some ('\x08', rest)
  | 'f' :: rest => some ('\x0c', rest)
  | 'u' :: a :: b :: c :: d :: rest => some (Char.ofNat (hexNumber [a, b, c, d]), rest)
  | _ => none

/-- What stands for a character in a string is read back. -/
lemma readChar?_escape (c : Char) (rest : List Char) :
    readChar? readEscape? ((escape c).toList ++ rest) = some (c, rest) := by
  fun_cases escape c with
  | case8 =>
    have hsmall : c.toNat < 32 := by assumption
    have hvalue : hexNumber ['0', '0', hexDigit (c.toNat / 16), hexDigit (c.toNat % 16)] =
        c.toNat := by
      have hzero : hexDigitValue '0' = 0 := by decide
      have hhigh : hexDigitValue (hexDigit (c.toNat / 16)) = c.toNat / 16 :=
        hexDigitValue_digitChar (by omega)
      have hlow : hexDigitValue (hexDigit (c.toNat % 16)) = c.toNat % 16 :=
        hexDigitValue_digitChar (by omega)
      simp only [hexNumber, List.foldl_cons, List.foldl_nil, hzero, hhigh, hlow]
      omega
    rw [String.toList_ofList]
    simp only [List.cons_append, List.nil_append, readChar?, readEscape?, hvalue,
      Char.ofNat_toNat, if_true]
  | case9 hquote hbackslash =>
    rw [Char.toString_eq_singleton, String.toList_singleton, List.singleton_append, readChar?,
      if_neg hbackslash]
  | _ =>
    subst_vars
    rfl

/-- The characters of a string with its quotes. -/
def stringChars (text : String) : List Char :=
  '"' :: text.toList.flatMap (fun c => (escape c).toList) ++ ['"']

/-- A string is written with its quotes. -/
lemma toList_writeString (out text : String) :
    (writeString out text).toList = out.toList ++ stringChars text := by
  rw [writeString, String.toList_push, String.foldl_eq_foldl_toList, toList_foldl_append,
    String.toList_push]
  simp only [stringChars, List.append_assoc, List.cons_append, List.nil_append]

/-- A string can be told from whatever follows it. -/
lemma isPrefixCode_string : IsPrefixCode stringChars := by
  refine IsPrefixCode.quoted readChar?_escape ?_
  intro r s h
  exact absurd (List.cons.inj h).1 (by decide)

end Json

/-! ## Quoted texts -/

namespace Quoted

/-- Reads back what follows a backslash between double quotes. -/
def readEscape? : List Char → Option (Char × List Char)
  | '0' :: rest => some ('\x00', rest)
  | 't' :: rest => some ('\t', rest)
  | 'n' :: rest => some ('\n', rest)
  | 'r' :: rest => some ('\r', rest)
  | '\\' :: rest => some ('\\', rest)
  | '"' :: rest => some ('"', rest)
  | 'u' :: '\x7b' :: rest =>
    some (Char.ofNat (hexNumber (rest.takeWhile (· ≠ '\x7d'))), (rest.dropWhile (· ≠ '\x7d')).tail)
  | _ => none

/-- The number of a character is read up to the closing brace. -/
lemma readEscape?_hexDigits (c : Char) (rest : List Char) :
    readEscape? ('u' :: '\x7b' :: ((hexDigits c.toNat).toList ++ '\x7d' :: rest)) =
      some (c, rest) := by
  have hbrace : ∀ n < 16, decide (Nat.digitChar n ≠ '\x7d') = true := by decide
  have hdigits : ∀ d ∈ Nat.toDigits 16 c.toNat, decide (d ≠ '\x7d') = true := by
    intro d hd
    obtain ⟨n, hn, rfl⟩ := exists_digitChar_of_mem_toDigits hd
    exact hbrace n hn
  rw [hexDigits, String.toList_ofList, readEscape?, List.takeWhile_append_of_pos hdigits,
    List.dropWhile_append_of_pos hdigits]
  simp [hexNumber_toDigits]

/-- What stands for a character between double quotes is read back. -/
lemma readChar?_escape (c : Char) (rest : List Char) :
    readChar? readEscape? ((escape '"' c).toList ++ rest) = some (c, rest) := by
  fun_cases escape '"' c with
  | case7 =>
    have hbraces : ("\\u\x7b" ++ hexDigits c.toNat ++ "\x7d").toList ++ rest =
        '\\' :: 'u' :: '\x7b' :: ((hexDigits c.toNat).toList ++ '\x7d' :: rest) := by
      simp
    rw [hbraces, readChar?, if_pos rfl, readEscape?_hexDigits]
  | case8 hnul htab hnewline hreturn hbackslash =>
    rw [Char.toString_eq_singleton, String.toList_singleton, List.singleton_append, readChar?,
      if_neg hbackslash]
  | _ =>
    subst_vars
    rfl

/-- A quoted text is what stands for its characters, between quotes. -/
lemma toList_string (text : String) :
    (string text).toList =
      '"' :: (text.toList.flatMap fun c => (escape '"' c).toList) ++ ['"'] := by
  rw [string, String.toList_push, String.foldl_eq_foldl_toList, toList_foldl_append]
  rfl

/-- A quoted text can be told from whatever follows it. -/
lemma isPrefixCode_string : IsPrefixCode fun text => (string text).toList := by
  simp only [toList_string]
  refine IsPrefixCode.quoted readChar?_escape ?_
  intro r s h
  exact absurd (List.cons.inj h).1 (by decide)

/-- A hexadecimal number has no end of a line in it. -/
lemma newline_not_mem_hexDigits (n : Nat) : '\n' ∉ (hexDigits n).toList := by
  have hdigit : ∀ d < 16, Nat.digitChar d ≠ '\n' := by decide
  rw [hexDigits, String.toList_ofList]
  intro h
  obtain ⟨d, hd, hnewline⟩ := exists_digitChar_of_mem_toDigits h
  exact hdigit d hd hnewline.symm

/-- What stands for a character between quotes has no end of a line in it. -/
lemma newline_not_mem_escape (c : Char) : '\n' ∉ (escape '"' c).toList := by
  fun_cases escape '"' c with
  | case7 =>
    rw [String.toList_append, String.toList_append, List.mem_append, List.mem_append, not_or,
      not_or]
    exact ⟨⟨by decide, newline_not_mem_hexDigits c.toNat⟩, by decide⟩
  | case8 hnul htab hnewline => simpa using Ne.symm hnewline
  | _ => decide

/-- A quoted text has no end of a line in it. -/
lemma newline_not_mem_string (text : String) : '\n' ∉ (string text).toList := by
  rw [toList_string]
  intro h
  simp only [List.cons_append, List.mem_cons, List.mem_append, List.mem_flatMap,
    List.not_mem_nil, or_false] at h
  obtain hquote | ⟨c, -, hc⟩ | hquote := h
  · exact absurd hquote (by decide)
  · exact newline_not_mem_escape c hc
  · exact absurd hquote (by decide)

end Quoted

end SearchQuery
