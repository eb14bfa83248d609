import Schemata.Binary64

/-!
# The shortest decimal of a binary64 number

The decimal with the fewest digits that reads back as a given number. On the grid of decimals with 1, 2, … 17 digits the two
neighbours of the number are tested against the interval of reals that round to it; the first grid with a neighbour inside
gives the answer, the nearer of two, and the even one of two equally near.
-/

namespace Schemata

/-- The number `digits * 10 ^ exponent`. -/
structure Decimal where
  digits : Nat
  exponent : Int
deriving DecidableEq, Repr

namespace Decimal

/-- How many decimal digits a whole number has; zero has one. -/
def digitCount (n : Nat) : Nat :=
  (Nat.toDigits 10 n).length

/-- Move trailing zeros of the digits into the exponent. -/
def normalize (d : Decimal) : Decimal :=
  if d.digits ≠ 0 ∧ d.digits % 10 = 0 then normalize ⟨d.digits / 10, d.exponent + 1⟩ else d
termination_by d.digits
decreasing_by omega

/-- Where the point stands: the `p` with `10 ^ (p - 1) ≤ num / den < 10 ^ p`. -/
def pointOf (num den : Nat) : Int :=
  if den ≤ num then digitCount (num / den) else 1 - digitCount ((den - 1) / num)

end Decimal

namespace Binary64

/-- Four times the lower and upper ends, in units, of the reals that round to the magnitude. -/
def roundingInterval (x : Binary64) : Nat × Nat :=
  let step := 2 ^ x.shift
  let below := if x.significand = 2 ^ 52 ∧ x.shift ≠ 0 then step else 2 * step
  (4 * x.magnitude - below, 4 * x.magnitude + 2 * step)

/-- The decimal `digits * 10 ^ exponent` rounds to the magnitude; the ends count when the significand is even. -/
def readsBackAs (x : Binary64) (d : Decimal) : Bool :=
  let (low, high) := x.roundingInterval
  let value := 4 * d.digits * 10 ^ d.exponent.toNat * one
  let scale := 10 ^ (-d.exponent).toNat
  if x.significand % 2 = 0 then low * scale ≤ value && value ≤ high * scale
  else low * scale < value && value < high * scale

/-- The better of the two neighbours of the magnitude among the multiples of `10 ^ exponent`, if one reads back. -/
def neighbour? (x : Binary64) (exponent : Int) : Option Decimal :=
  let num := x.magnitude * 10 ^ (-exponent).toNat
  let den := one * 10 ^ exponent.toNat
  let below : Decimal := ⟨num / den, exponent⟩
  let above : Decimal := ⟨num / den + 1, exponent⟩
  match x.readsBackAs below, x.readsBackAs above with
  | true, true => some ⟨roundHalfEven num den, exponent⟩
  | true, false => some below
  | false, true => some above
  | false, false => none

/-- The shortest decimal that reads back as the magnitude. -/
def shortest (x : Binary64) : Decimal :=
  let point := Decimal.pointOf x.magnitude one
  match (List.range 17).findSome? fun (i : Nat) => x.neighbour? (point - 1 - i) with
  | some d => d.normalize
  | none => ⟨0, 0⟩

end Binary64

end Schemata
