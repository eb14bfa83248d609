import Schemata.Decimal.Layout

/-!
# Numbers of a document

A number is a whole number between -2^63 and 2^64 - 1, or a binary64 number. The two are told apart: `1` and `1.0` are different
values (`same`), although they compare as equal quantities (`toBinary64`).
-/

namespace Schemata

/-- A number as a document writes it. -/
inductive Number where
  | whole (n : Int) (inRange : -2 ^ 63 ≤ n ∧ n < 2 ^ 64)
  | real (x : Binary64)
deriving DecidableEq

namespace Number

/-- The whole number of a natural number below 2^64. -/
def ofNat (n : Nat) (h : n < 2 ^ 64) : Number :=
  .whole n (by omega)

/-- The negation of a natural number of at most 2^63. -/
def ofNeg (n : Nat) (h : n ≤ 2 ^ 63) : Number :=
  .whole (-n) (by omega)

/-- Two numbers are written alike: both whole and equal, or both binary64 and of one value. -/
def same : Number → Number → Bool
  | .whole n _, .whole m _ => n == m
  | .real x, .real y => x.same y
  | _, _ => false

/-- A number is written like itself. -/
theorem same_refl (n : Number) : n.same n = true := by
  cases n <;> simp [same, Binary64.same]

/-- The number as a quantity: a whole number is rounded to the nearest binary64 number. -/
def toBinary64 : Number → Binary64
  | .whole n h => .ofInt n (by omega)
  | .real x => x

/-- The text of a number in a document. -/
def text : Number → String
  | .whole n _ => toString n
  | .real x => x.text .document

end Number

end Schemata
