/-!
# Decimal numbers in double precision

A decimal number is rounded to the nearest double, a tie going to the even significand, and a
double is written with the fewest decimal digits that read back as it.  Everything is computed
exactly on natural numbers; no machine arithmetic is involved.
-/

namespace SearchQuery

/-- A number in double precision; a finite one is `significand · 2 ^ power`. -/
inductive Binary64 where
  | finite (negative : Bool) (significand : Nat) (power : Int)
  | infinite (negative : Bool)
  | nan
  deriving DecidableEq, Repr

namespace Binary64

/-- The quotient rounded to the nearest number, a tie to the even one. -/
def roundToEven (num den : Nat) : Nat :=
  let floor := num / den
  let rest := 2 * (num % den)
  if rest < den || (rest = den && floor % 2 = 0) then floor else floor + 1

/-- The fraction divided by `2 ^ power`. -/
def scale (num den : Nat) (power : Int) : Nat × Nat :=
  (num * Nat.pow 2 (-power).toNat, den * Nat.pow 2 power.toNat)

/-- Significand and power of the double nearest to a positive fraction; nothing if it is too
large. -/
def nearest? (num den : Nat) : Option (Nat × Int) :=
  let estimate : Int := Nat.log2 num - Nat.log2 den - 53
  let low := max estimate (-1074)
  let (n, d) := scale num den low
  let power := if n / d < Nat.pow 2 53 then low else low + 1
  let (n, d) := scale num den power
  let rounded := roundToEven n d
  let (significand, power) :=
    if rounded = Nat.pow 2 53 then (Nat.pow 2 52, power + 1) else (rounded, power)
  if 971 < power then none else some (significand, power)

/-- The double nearest to `digits · 10 ^ exponent`; nothing if it is too large.  Ten is more than
the third power of two, so numbers far out of range are decided by their magnitude alone. -/
def ofDecimal? (negative : Bool) (digits : Nat) (exponent : Int) : Option Binary64 :=
  let magnitude : Int := Nat.log2 digits + 3 * exponent
  if digits = 0 || (exponent < 0 && magnitude < -1080) then some (.finite negative 0 0)
  else if 0 < exponent && 1024 < magnitude then none
  else
    (nearest? (digits * Nat.pow 10 exponent.toNat) (Nat.pow 10 (-exponent).toNat)).map
      fun (significand, power) => .finite negative significand power

/-- On the grid of the multiples of `10 ^ exponent`, the nearest number to the given double that
reads back as it, as a multiple. -/
def onGrid? (significand : Nat) (power exponent : Int) : Option Nat :=
  let unit := Nat.pow 2 (power - 2).toNat
  let den := Nat.pow 2 (2 - power).toNat
  let value := 4 * significand * unit
  let below := if significand = Nat.pow 2 52 && -1074 < power then 1 else 2
  let low := (4 * significand - below) * unit
  let high := (4 * significand + 2) * unit
  let up := Nat.pow 10 exponent.toNat
  let down := Nat.pow 10 (-exponent).toNat
  let within (n : Nat) : Bool :=
    let x := n * up * den
    if significand % 2 = 0 then low * down ≤ x && x ≤ high * down
    else low * down < x && x < high * down
  let floor := value * down / (den * up)
  let closerAbove := 2 * (value * down) ≥ (2 * floor + 1) * up * den
  match within floor, within (floor + 1) with
  | true, true => some (if closerAbove then floor + 1 else floor)
  | true, false => some floor
  | false, true => some (floor + 1)
  | false, false => none

/-- The fewest digits that read back, with their exponent: the coarsest grid that has one. -/
def shortest (significand : Nat) (power : Int) : Nat × Int :=
  ((List.range 660).findSome? fun (i : Nat) =>
    let exponent : Int := 309 - i
    (onGrid? significand power exponent).map fun digits => (digits, exponent)).getD (0, 0)

/-- `digits · 10 ^ exponent` written out, with at least one digit after the point. -/
def positional (digits : Nat) (exponent : Int) : String :=
  let ds := Nat.toDigits 10 digits
  let zeros (n : Nat) := List.replicate n '0'
  if 0 ≤ exponent then String.ofList (ds ++ zeros exponent.toNat ++ ['.', '0'])
  else
    let places := (-exponent).toNat
    if places < ds.length then
      String.ofList (ds.take (ds.length - places) ++ '.' :: ds.drop (ds.length - places))
    else String.ofList ('0' :: '.' :: zeros (places - ds.length) ++ ds)

/-- A double as text: never with an exponent, always with a point. -/
def text : Binary64 → String
  | finite negative significand power =>
    let sign := if negative then "-" else ""
    if significand = 0 then sign ++ "0.0"
    else
      let (digits, exponent) := shortest significand power
      sign ++ positional digits exponent
  | infinite negative => if negative then "-inf" else "inf"
  | nan => "NaN"

end Binary64

end SearchQuery
