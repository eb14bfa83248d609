/-!
# Finite binary64 numbers

A finite binary64 number is a whole number of units of 2^-1074, the least positive one, so order, equality and wholeness are
questions about integers (`units`). Rounding goes to the nearest number, a tie to the one with the even pattern
(`nearestCode`).
-/

namespace Schemata

-- The powers meant are those of the core library, also where Mathlib brings powers of its own.
attribute [instance (2000), default_instance (20000)] instPowNat

/-- A finite binary64 number: its sign, and the bit pattern of its magnitude below the sign bit. -/
structure Binary64 where
  negative : Bool
  code : Nat
  finite : code < 2047 * 2 ^ 52
deriving DecidableEq

namespace Binary64

/-- How many units of 2^-1074 the number one has. -/
def one : Nat := 2 ^ 1074

/-- The 53-bit significand as a whole number. -/
def significand (x : Binary64) : Nat :=
  if x.code < 2 ^ 52 then x.code else 2 ^ 52 + x.code % 2 ^ 52

/-- The power of two, in units, by which the significand counts. -/
def shift (x : Binary64) : Nat :=
  x.code / 2 ^ 52 - 1

/-- The magnitude in units of 2^-1074. -/
def magnitude (x : Binary64) : Nat :=
  x.significand * 2 ^ x.shift

/-- The exact value in units of 2^-1074. -/
def units (x : Binary64) : Int :=
  if x.negative then -(x.magnitude : Int) else x.magnitude

/-- Order by value: the two zeros are equal. -/
instance : LE Binary64 := ⟨fun x y => x.units ≤ y.units⟩

/-- Strict order by value. -/
instance : LT Binary64 := ⟨fun x y => x.units < y.units⟩

instance (x y : Binary64) : Decidable (x ≤ y) := inferInstanceAs (Decidable (x.units ≤ y.units))

instance (x y : Binary64) : Decidable (x < y) := inferInstanceAs (Decidable (x.units < y.units))

/-- Two numbers have the same value; zero is one value with two signs. -/
def same (x y : Binary64) : Bool :=
  x.units == y.units

/-- The value is a whole number. -/
def isWhole (x : Binary64) : Bool :=
  x.units % one == 0

/-- The whole number that a value is, if it is one. -/
def toInt? (x : Binary64) : Option Int :=
  if x.isWhole then some (x.units / one) else none

theorem le_iff (x y : Binary64) : x ≤ y ↔ x.units ≤ y.units := Iff.rfl

theorem lt_iff (x y : Binary64) : x < y ↔ x.units < y.units := Iff.rfl

theorem same_iff (x y : Binary64) : x.same y = true ↔ x.units = y.units := by
  simp [same]

/-! ## Rounding -/

/-- A quotient rounded to the nearest whole number, a tie to the even one. -/
def roundHalfEven (num den : Nat) : Nat :=
  let quotient := num / den
  let twice := 2 * (num % den)
  if twice < den then quotient
  else if den < twice then quotient + 1
  else quotient + quotient % 2

/-- The pattern of the number nearest to `num / den` units; one past the largest pattern stands for a value too large. -/
def nearestCode (num den : Nat) : Nat :=
  let shift := (num / den).log2 - 52
  shift * 2 ^ 52 + roundHalfEven num (den * 2 ^ shift)

/-- The number nearest to `num / den` units, unless it is too large. -/
def ofRatio? (negative : Bool) (num den : Nat) : Option Binary64 :=
  if h : nearestCode num den < 2047 * 2 ^ 52 then some ⟨negative, nearestCode num den, h⟩ else none

theorem roundHalfEven_le (num den : Nat) : roundHalfEven num den ≤ num / den + 1 := by
  unfold roundHalfEven
  have : num / den % 2 ≤ 1 := by omega
  grind

/-- A value below 2^1023 rounds to a finite number. -/
theorem nearestCode_lt {num den : Nat} (h : num / den < 2 ^ 2097) : nearestCode num den < 2047 * 2 ^ 52 := by
  generalize hs : (num / den).log2 - 52 = s
  have hlog : (num / den).log2 ≤ 2096 := by
    by_cases hz : num / den = 0
    · simp [hz]
    · have := (Nat.log2_lt hz).mpr h
      omega
  have hq : num / (den * 2 ^ s) < 2 ^ 53 := by
    rw [← Nat.div_div_eq_div_mul]
    apply Nat.div_lt_of_lt_mul
    have h1 : num / den < 2 ^ ((num / den).log2 + 1) := Nat.lt_log2_self
    have h2 : (2 : Nat) ^ ((num / den).log2 + 1) ≤ 2 ^ (s + 53) := Nat.pow_le_pow_right (by omega) (by omega)
    rw [← Nat.pow_add]
    omega
  have hr := roundHalfEven_le num (den * 2 ^ s)
  have hs' : s ≤ 2044 := by omega
  simp only [nearestCode, hs]
  omega

/-- A number of at most `a` bits, moved up by `b` bits, has at most `c` bits when `a + b < c`. -/
theorem mul_pow_lt {a b c n : Nat} (h : n ≤ 2 ^ a) (hc : a + b < c) : n * 2 ^ b < 2 ^ c := by
  refine Nat.lt_of_le_of_lt (Nat.mul_le_mul_right _ h) ?_
  rw [← Nat.pow_add]
  exact Nat.pow_lt_pow_right (by omega) hc

/-- The number nearest to a whole number of at most 64 bits. -/
def ofInt (n : Int) (h : n.natAbs ≤ 2 ^ 64) : Binary64 where
  negative := n < 0
  code := nearestCode (n.natAbs * one) 1
  finite := by
    apply nearestCode_lt
    rw [Nat.div_one]
    unfold one
    apply mul_pow_lt h
    omega

/-- The positive zero. -/
def zero : Binary64 := ⟨false, 0, by decide⟩

/-- The product, rounded. -/
def mul? (x y : Binary64) : Option Binary64 :=
  ofRatio? (x.negative != y.negative) (x.magnitude * y.magnitude) one

/-- The quotient by a number other than zero, rounded. -/
def div? (x y : Binary64) : Option Binary64 :=
  ofRatio? (x.negative != y.negative) (x.magnitude * one) y.magnitude

end Binary64

end Schemata
