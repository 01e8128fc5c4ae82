import Mathlib.Tactic.Lemma
import SearchQuery.Toml.Scalar

/-!
# Numbers that are written in decimal

The decimal digits of a number, as they are printed, are read as an integer of that value
(`scalar?_toString`): they have no leading zero, no sign and no mark of another base.
-/

namespace SearchQuery.Toml

variable {n : Nat} {c : Char} {cs : List Char}

/-- The value of a decimal digit. -/
lemma digitValue?_of_isDigit (h : c.isDigit = true) :
    digitValue? 10 c = some (c.toNat - '0'.toNat) := by
  have hbound : c.toNat - 48 < 10 := by
    have hrange : 48 ≤ c.toNat ∧ c.toNat ≤ 57 := by
      simpa [Char.isDigit, UInt32.le_iff_toNat_le] using h
    omega
  simp [digitValue?, h, Option.filter, hbound]

/-- Digits have their values. -/
lemma readDigits_of_isDigit (h : ∀ c ∈ cs, c.isDigit = true) {afterDigit : Bool}
    (hsome : afterDigit = true ∨ cs ≠ []) :
    readDigits 10 afterDigit cs = some (cs.map fun c => c.toNat - '0'.toNat) := by
  induction cs generalizing afterDigit with
  | nil => simpa [readDigits] using hsome
  | cons c cs ih =>
    have hc := h c List.mem_cons_self
    have hunderscore : c ≠ '_' := by
      rintro rfl
      simp at hc
    have hrest := ih (fun d hd => h d (List.mem_cons_of_mem c hd)) (Or.inl rfl)
    rw [readDigits, if_neg hunderscore, digitValue?_of_isDigit hc, hrest]
    rfl

/-- Numbers are written in decimal digits. -/
lemma isDigit_of_mem_toDigits (hc : c ∈ Nat.toDigits 10 n) : c.isDigit = true :=
  Nat.isDigit_of_mem_toDigits (by decide) (by decide) hc

/-- The decimal digits of a number write the number. -/
lemma ofDigits_toDigits (n : Nat) :
    ofDigits 10 ((Nat.toDigits 10 n).map fun c => c.toNat - '0'.toNat) = n := by
  rw [ofDigits_eq_foldl, List.foldl_map, ← Nat.ofDigitChars_eq_foldl, Nat.ofDigitChars_ten_toDigits]

/-- Only zero begins with a zero. -/
lemma eq_zero_of_head?_toDigits (h : (Nat.toDigits 10 n).head? = some '0') : n = 0 := by
  induction n using Nat.strongRecOn with
  | _ n ih =>
    rw [Nat.toDigits_eq_if (by decide)] at h
    split at h
    · next hlt =>
      have hdigit : ∀ d < 10, d.digitChar = '0' → d = 0 := by decide
      exact hdigit n hlt (by simpa using h)
    · next hle =>
      rw [List.head?_append, Option.or_of_isSome (by simp)] at h
      have hzero := ih (n / 10) (by omega) h
      omega

/-- The decimal digits of a number are the digits of a decimal number. -/
lemma decimal?_toDigits (n : Nat) :
    decimal? (Nat.toDigits 10 n) =
      some ((Nat.toDigits 10 n).map fun c => c.toNat - '0'.toNat) := by
  have hzero :
      ¬ ((Nat.toDigits 10 n).head? = some '0' && (Nat.toDigits 10 n).length ≠ 1) = true := by
    rw [Bool.and_eq_true, decide_eq_true_iff, decide_eq_true_iff]
    rintro ⟨hhead, hlength⟩
    rw [eq_zero_of_head?_toDigits hhead] at hlength
    exact hlength rfl
  rw [decimal?, if_neg hzero]
  exact readDigits_of_isDigit (fun c => isDigit_of_mem_toDigits) (Or.inr Nat.toDigits_ne_nil)

/-- The decimal digits of a number write an integer. -/
lemma integer?_toDigits (n : Nat) : integer? (Nat.toDigits 10 n) = some (some (n : Int)) := by
  have hdigits : ∀ c ∈ Nat.toDigits 10 n, c.isDigit = true := fun c => isDigit_of_mem_toDigits
  have hdecimal : decimalInteger? false (Nat.toDigits 10 n) = some (some (n : Int)) := by
    rw [decimalInteger?, if_pos (List.all_eq_true.mpr hdigits), decimal?_toDigits, Option.map_some,
      ofDigits_toDigits]
    rfl
  -- A letter after a zero, and a sign, are no digits.
  unfold integer?
  split
  · next ds hcs => simpa [hcs] using hdigits 'x' (by simp [hcs])
  · next ds hcs => simpa [hcs] using hdigits 'o' (by simp [hcs])
  · next ds hcs => simpa [hcs] using hdigits 'b' (by simp [hcs])
  · have hsign : splitSign (Nat.toDigits 10 n) = (false, Nat.toDigits 10 n) := by
      unfold splitSign
      split
      · next ds hcs => simpa [hcs] using hdigits '-' (by simp [hcs])
      · next ds hcs => simpa [hcs] using hdigits '+' (by simp [hcs])
      · rfl
    rw [hsign]
    exact hdecimal

/-- The decimal digits of a number are read as an integer. -/
lemma scalar?_toString (n : Nat) : scalar? (toString n) = some (.integer (some (n : Int))) := by
  have hlist : (toString n).toList = Nat.toDigits 10 n := by
    rw [Nat.toString_eq_ofList_toDigits, String.toList_ofList]
  have hword : ∀ word : String, 't' ∈ word.toList ∨ 'f' ∈ word.toList → toString n ≠ word := by
    rintro word hletter rfl
    rw [hlist] at hletter
    rcases hletter with hletter | hletter
    · simpa using isDigit_of_mem_toDigits hletter
    · simpa using isDigit_of_mem_toDigits hletter
  rw [scalar?, if_neg (hword "true" (by decide)), if_neg (hword "false" (by decide)), hlist,
    integer?_toDigits]

end SearchQuery.Toml
