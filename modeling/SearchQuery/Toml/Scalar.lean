import SearchQuery.Toml.Value

/-!
# Unquoted TOML values

Booleans, integers, floats, dates and times, read from the text that writes them.  The form of
an integer is looked at in less detail than its value needs: `0x` and `1_a` have the form of an
integer, but write no number.
-/

namespace SearchQuery.Toml

/-- The value of a digit in the given base. -/
def digitValue? (base : Nat) (c : Char) : Option Nat :=
  let value? :=
    if c.isDigit then some (c.toNat - '0'.toNat)
    else if 'a' ≤ c && c ≤ 'f' then some (c.toNat - 'a'.toNat + 10)
    else if 'A' ≤ c && c ≤ 'F' then some (c.toNat - 'A'.toNat + 10)
    else none
  value?.filter (· < base)

/-- Reads digits, of which one may already have been read; single underscores may stand between
digits. -/
def readDigits (base : Nat) (afterDigit : Bool) : List Char → Option (List Nat)
  | [] => if afterDigit then some [] else none
  | c :: cs =>
    if c = '_' then if afterDigit then readDigits base false cs else none
    else
      match digitValue? base c with
      | none => none
      | some digit => (readDigits base true cs).map (digit :: ·)

/-- The digits that the characters write, at least one. -/
def digits? (base : Nat) (cs : List Char) : Option (List Nat) :=
  readDigits base false cs

/-! ### The number that digits write

Long numbers are read by joining their digits in pairs, over and over, which multiplies numbers of
equal length only.  `ofDigits_eq_foldl` says that the outcome is that of taking the digits in one
by one.
-/

/-- Digits, the lowest first, joined in pairs to digits of the squared base. -/
def joinPairs (base : Nat) : List Nat → List Nat
  | low :: high :: digits => (low + base * high) :: joinPairs base digits
  | digits => digits

/-- Joining pairs adds no digit. -/
theorem length_joinPairs_le (base : Nat) (digits : List Nat) :
    (joinPairs base digits).length ≤ digits.length := by
  fun_induction joinPairs base digits with
  | case1 low high digits ih => simp only [List.length_cons]; omega
  | case2 => exact Nat.le_refl _

/-- The number that digits write, the lowest first. -/
def ofLowestFirst (base : Nat) : List Nat → Nat
  | [] => 0
  | [digit] => digit
  | low :: high :: digits =>
    ofLowestFirst (base * base) ((low + base * high) :: joinPairs base digits)
termination_by digits => digits.length
decreasing_by
  have := length_joinPairs_le base digits
  simp only [List.length_cons]
  omega

/-- Joined digits write the same number. -/
theorem foldr_joinPairs (base : Nat) (digits : List Nat) :
    (joinPairs base digits).foldr (fun digit value => digit + base * base * value) 0 =
      digits.foldr (fun digit value => digit + base * value) 0 := by
  fun_induction joinPairs base digits with
  | case1 low high digits ih =>
    rw [List.foldr_cons, ih]
    simp only [List.foldr_cons, Nat.mul_add, Nat.mul_assoc, Nat.add_assoc]
  | case2 digits short =>
    match digits, short with
    | [], _ => rfl
    | [digit], _ => simp
    | low :: high :: digits, short => exact absurd rfl (short low high digits)

/-- The number is that of the digits one by one. -/
theorem ofLowestFirst_eq_foldr (base : Nat) (digits : List Nat) :
    ofLowestFirst base digits = digits.foldr (fun digit value => digit + base * value) 0 := by
  fun_induction ofLowestFirst base digits with
  | case1 => rfl
  | case2 => simp
  | case3 base low high digits ih =>
    rw [ih]
    exact foldr_joinPairs base (low :: high :: digits)

/-- The number that digits write. -/
def ofDigits (base : Nat) (digits : List Nat) : Nat :=
  ofLowestFirst base digits.reverse

/-- Every digit is added to the base times what the digits before it write. -/
theorem ofDigits_eq_foldl (base : Nat) (digits : List Nat) :
    ofDigits base digits = digits.foldl (fun value digit => base * value + digit) 0 := by
  rw [ofDigits, ofLowestFirst_eq_foldr, List.foldr_reverse]
  simp only [Nat.add_comm]

/-! ### Numbers -/

/-- The number that the characters write. -/
def natural? (base : Nat) (cs : List Char) : Option Nat :=
  (digits? base cs).map (ofDigits base)

/-- The digits of a decimal number without a leading zero, unless it is zero. -/
def decimal? (cs : List Char) : Option (List Nat) :=
  if cs.head? = some '0' && cs.length ≠ 1 then none else digits? 10 cs

/-- Takes a sign off: whether it is a minus, and the rest. -/
def splitSign : List Char → Bool × List Char
  | '-' :: cs => (true, cs)
  | '+' :: cs => (false, cs)
  | cs => (false, cs)

/-- The number with a sign. -/
def signed (negative : Bool) (n : Nat) : Int :=
  if negative then -(n : Int) else n

/-- A hexadecimal, octal or binary integer after its mark; without any digits it has no
value. -/
def radixInteger? (base : Nat) (cs : List Char) : Option (Option Int) :=
  if cs.isEmpty then some none
  else (natural? base cs).map fun n => some (Int.ofNat n)

/-- Whether every underscore stands between two hexadecimal digits, of which one may already have
been read. -/
def separates (afterDigit : Bool) : List Char → Bool
  | [] => true
  | c :: cs =>
    if c = '_' then
      afterDigit && (cs.head?.bind (digitValue? 16)).isSome && separates false cs
    else separates (digitValue? 16 c).isSome cs

/-- Whether the characters are a decimal integer in groups: digits up to an underscore, and then
anything but a point or the mark of an exponent. -/
def isGrouped (cs : List Char) : Bool :=
  cs.head? ≠ some '0' &&
    (cs.dropWhile Char.isDigit).head? = some '_' &&
    cs.all (fun c => c ≠ '.' && c ≠ 'e' && c ≠ 'E') &&
    separates false cs

/-- A decimal integer after its sign.  One in groups has no value if the groups hold anything but
decimal digits. -/
def decimalInteger? (negative : Bool) (cs : List Char) : Option (Option Int) :=
  if cs.all Char.isDigit then
    (decimal? cs).map fun ds => some (signed negative (ofDigits 10 ds))
  else if isGrouped cs then
    some ((natural? 10 (cs.filter (· ≠ '_'))).map (signed negative))
  else none

/-- An integer: decimal with an optional sign, or hexadecimal, octal or binary without.  The value
is missing if the text writes no number. -/
def integer? (cs : List Char) : Option (Option Int) :=
  match cs with
  | '0' :: 'x' :: ds => radixInteger? 16 ds
  | '0' :: 'o' :: ds => radixInteger? 8 ds
  | '0' :: 'b' :: ds => radixInteger? 2 ds
  | _ =>
    let (negative, ds) := splitSign cs
    decimalInteger? negative ds

/-- The characters before and after the first one that satisfies the predicate. -/
def splitAt? (p : Char → Bool) (cs : List Char) : List Char × Option (List Char) :=
  (cs.takeWhile (!p ·), (cs.dropWhile (!p ·)).tail?)

/-- The number that the digits of an exponent write.  From `65536` on it is taken for large enough,
and further digits are passed over. -/
def ofExponentDigits (digits : List Nat) : Nat :=
  digits.foldl (fun value digit => if value < 65536 then 10 * value + digit else value) 0

/-- The signed number after the mark of an exponent; zeros may lead it. -/
def exponent? (cs : List Char) : Option Int :=
  let (negative, ds) := splitSign cs
  (digits? 10 ds).map fun ds => signed negative (ofExponentDigits ds)

/-- A float: a fraction or an exponent or both, or one of the names.  The value is missing if
the number is too large. -/
def float? (cs : List Char) : Option (Option Binary64) :=
  let (negative, unsigned) := splitSign cs
  if unsigned = "inf".toList then some (some (.infinite negative))
  else if unsigned = "nan".toList then some (some .nan)
  else
    let (mantissa, scale?) := splitAt? (fun c => c = 'e' || c = 'E') unsigned
    let (whole, fraction?) := splitAt? (· = '.') mantissa
    if fraction?.isNone && scale?.isNone then none
    else
      match decimal? whole, (fraction?.map (digits? 10)).getD (some []),
          (scale?.map exponent?).getD (some 0) with
      | some whole, some fraction, some scale =>
        some (Binary64.ofDecimal? negative (ofDigits 10 (whole ++ fraction))
          (scale - fraction.length))
      | _, _, _ => none

/-! ### Dates and times -/

/-- A number of exactly so many digits at the start, and the rest. -/
def fixedDigits? (count : Nat) (cs : List Char) : Option (Nat × List Char) :=
  let ds := cs.take count
  if ds.length = count && ds.all Char.isDigit then
    (natural? 10 ds).map fun n => (n, cs.drop count)
  else none

/-- A character at the start that satisfies the predicate, and the rest. -/
def one? (p : Char → Bool) : List Char → Option (List Char)
  | c :: cs => if p c then some cs else none
  | [] => none

/-- The number of days of a month. -/
def daysInMonth (year month : Nat) : Nat :=
  if month = 2 then
    if year % 4 = 0 && (year % 100 ≠ 0 || year % 400 = 0) then 29 else 28
  else if month ∈ [4, 6, 9, 11] then 30
  else 31

/-- A date at the start, and the rest. -/
def date? (cs : List Char) : Option (List Char) := do
  let (year, cs) ← fixedDigits? 4 cs
  let cs ← one? (· = '-') cs
  let (month, cs) ← fixedDigits? 2 cs
  let cs ← one? (· = '-') cs
  let (day, cs) ← fixedDigits? 2 cs
  if 1 ≤ month && month ≤ 12 && 1 ≤ day && day ≤ daysInMonth year month then some cs else none

/-- A time of day at the start, and the rest; seconds may be missing. -/
def time? (cs : List Char) : Option (List Char) := do
  let (hour, cs) ← fixedDigits? 2 cs
  let cs ← one? (· = ':') cs
  let (minute, cs) ← fixedDigits? 2 cs
  if 24 ≤ hour || 60 ≤ minute then none
  else
    match cs with
    | ':' :: cs =>
      let (second, cs) ← fixedDigits? 2 cs
      if 61 ≤ second then none
      else
        match cs with
        | '.' :: cs =>
          if (cs.head?.map Char.isDigit).getD false then some (cs.dropWhile Char.isDigit) else none
        | _ => some cs
    | _ => some cs

/-- An offset from universal time at the start, and the rest. -/
def zone? (cs : List Char) : Option (List Char) :=
  match cs with
  | 'Z' :: cs | 'z' :: cs => some cs
  | _ => do
    let cs ← one? (fun c => c = '+' || c = '-') cs
    let (hours, cs) ← fixedDigits? 2 cs
    let cs ← one? (· = ':') cs
    let (minutes, cs) ← fixedDigits? 2 cs
    if hours < 24 && minutes < 60 then some cs else none

/-- Whether the characters are a date and nothing else. -/
def isDate (cs : List Char) : Bool :=
  date? cs = some []

/-- Whether the characters are a date, a time of day, or both with or without an offset. -/
def isDateTime (cs : List Char) : Bool :=
  match date? cs with
  | none => time? cs = some []
  | some [] => true
  | some (c :: cs) =>
    (c = 'T' || c = 't' || c = ' ') &&
      match time? cs with
      | none => false
      | some [] => true
      | some cs => zone? cs = some []

/-- The value that an unquoted text writes. -/
def scalar? (text : String) : Option Value :=
  let cs := text.toList
  if text = "true" then some (.boolean true)
  else if text = "false" then some (.boolean false)
  else
    match integer? cs with
    | some n => some (.integer n)
    | none =>
      match float? cs with
      | some f => some (.float f)
      | none => if isDateTime cs then some (.dateTime text) else none

end SearchQuery.Toml
