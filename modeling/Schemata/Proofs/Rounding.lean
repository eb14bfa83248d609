import Schemata.Proofs.Library.Falsy

/-!
# Rounding whole numbers

A whole number that is taken for a binary64 number is rounded to the nearest one with a significand of 53 bits, a tie to the even
significand (`Binary64.rounded`). Rounding keeps the order of numbers (`rounded_mono`) and changes none of at most 2^53 in magnitude
(`rounded_of_le`), so two numbers that are rounded alike are both of that magnitude at least (`le_of_rounded_eq`).
-/

namespace Schemata.Binary64

/-! ## Quotients -/

/-- A quotient is not rounded down by more than its fraction. -/
theorem le_roundHalfEven (num den : Nat) : num / den ≤ roundHalfEven num den := by
  unfold roundHalfEven
  grind

/-- A whole quotient is not rounded. -/
theorem roundHalfEven_mul_of_dvd {num den : Nat} (hden : 0 < den) (h : den ∣ num) : roundHalfEven num den * den = num := by
  have hfraction : num % den = 0 := Nat.mod_eq_zero_of_dvd h
  have hround : roundHalfEven num den = num / den := by
    unfold roundHalfEven
    simp [hfraction, hden]
  rw [hround, Nat.div_mul_cancel h]

/-- A quotient is rounded by its value alone. -/
theorem roundHalfEven_mul_right (num den : Nat) {k : Nat} (hk : 0 < k) :
    roundHalfEven (num * k) (den * k) = roundHalfEven num den := by
  have hless : 2 * (num % den * k) < den * k ↔ 2 * (num % den) < den := by
    rw [← Nat.mul_assoc]
    exact Nat.mul_lt_mul_right hk
  have hmore : den * k < 2 * (num % den * k) ↔ den < 2 * (num % den) := by
    rw [← Nat.mul_assoc]
    exact Nat.mul_lt_mul_right hk
  unfold roundHalfEven
  simp only [Nat.mul_div_mul_right _ _ hk, Nat.mul_mod_mul_right, hless, hmore]

/-- A greater quotient is not rounded to a lesser number. -/
theorem roundHalfEven_mono {num num' : Nat} (h : num ≤ num') (den : Nat) : roundHalfEven num den ≤ roundHalfEven num' den := by
  have hle : num / den ≤ num' / den := Nat.div_le_div_right h
  rcases Nat.lt_or_eq_of_le hle with hlt | heq
  · have hupper := roundHalfEven_le num den
    have hlower := le_roundHalfEven num' den
    omega
  · -- With the same whole part, the fraction decides.
    have hfraction : num % den ≤ num' % den := by
      have hnum := Nat.div_add_mod num den
      have hnum' := Nat.div_add_mod num' den
      rw [heq] at hnum
      omega
    unfold roundHalfEven
    simp only [heq]
    grind

/-! ## Magnitudes -/

/-- A magnitude rounded to a significand of 53 bits, a tie to the even one. -/
def roundedMagnitude (n : Nat) : Nat :=
  roundHalfEven n (2 ^ (n.log2 - 52)) * 2 ^ (n.log2 - 52)

/-- The significand has 53 bits, or is the least number with one more. -/
theorem significand_le (n : Nat) : roundHalfEven n (2 ^ (n.log2 - 52)) ≤ 2 ^ 53 := by
  have hlog : n < 2 ^ (n.log2 + 1) := Nat.lt_log2_self
  have hpow : (2 : Nat) ^ (n.log2 + 1) ≤ 2 ^ (n.log2 - 52) * 2 ^ 53 := by
    rw [← Nat.pow_add]
    exact Nat.pow_le_pow_right (by omega) (by omega)
  have hquotient : n / 2 ^ (n.log2 - 52) < 2 ^ 53 := Nat.div_lt_of_lt_mul (Nat.lt_of_lt_of_le hlog hpow)
  have hupper := roundHalfEven_le n (2 ^ (n.log2 - 52))
  omega

/-- If it counts by more than one, it has 53 bits at least. -/
theorem le_significand {n : Nat} (h : n.log2 - 52 ≠ 0) : 2 ^ 52 ≤ roundHalfEven n (2 ^ (n.log2 - 52)) := by
  have hn : n ≠ 0 := by
    rintro rfl
    exact h (by decide)
  have hpow : (2 : Nat) ^ 52 * 2 ^ (n.log2 - 52) = 2 ^ n.log2 := by
    rw [← Nat.pow_add]
    congr 1
    omega
  have hquotient : 2 ^ 52 ≤ n / 2 ^ (n.log2 - 52) := by
    rw [Nat.le_div_iff_mul_le (Nat.two_pow_pos _), hpow]
    exact Nat.log2_self_le hn
  exact Nat.le_trans hquotient (le_roundHalfEven n _)

/-- A multiple of the power of two that its significand counts by is not rounded. -/
theorem roundedMagnitude_of_dvd {n : Nat} (h : 2 ^ (n.log2 - 52) ∣ n) : roundedMagnitude n = n :=
  roundHalfEven_mul_of_dvd (Nat.two_pow_pos _) h

/-- A magnitude of at most 2^53 is not rounded. -/
theorem roundedMagnitude_of_le {n : Nat} (h : n ≤ 2 ^ 53) : roundedMagnitude n = n := by
  apply roundedMagnitude_of_dvd
  rcases Nat.lt_or_eq_of_le h with hlt | rfl
  · by_cases hn : n = 0
    · exact hn ▸ Nat.dvd_zero _
    · have hlog : n.log2 < 53 := (Nat.log2_lt hn).mpr hlt
      have hshift : n.log2 - 52 = 0 := by omega
      rw [hshift]
      exact Nat.one_dvd n
  · decide

/-- Rounding keeps the order of magnitudes. -/
theorem roundedMagnitude_mono {n m : Nat} (h : n ≤ m) : roundedMagnitude n ≤ roundedMagnitude m := by
  by_cases hshift : n.log2 - 52 = m.log2 - 52
  · unfold roundedMagnitude
    rw [hshift]
    exact Nat.mul_le_mul_right _ (roundHalfEven_mono h _)
  · -- The lesser number has the lesser unit, and its significand in that unit is no greater than the other's in its own.
    have hlog : n.log2 ≤ m.log2 := by
      by_cases hn : n = 0
      · simp [hn]
      · have hm : m ≠ 0 := by omega
        exact (Nat.le_log2 hm).mpr (Nat.le_trans (Nat.log2_self_le hn) h)
    calc roundedMagnitude n ≤ 2 ^ 53 * 2 ^ (n.log2 - 52) := Nat.mul_le_mul_right _ (significand_le n)
      _ = 2 ^ (53 + (n.log2 - 52)) := (Nat.pow_add ..).symm
      _ ≤ 2 ^ (52 + (m.log2 - 52)) := Nat.pow_le_pow_right (by omega) (by omega)
      _ = 2 ^ 52 * 2 ^ (m.log2 - 52) := Nat.pow_add ..
      _ ≤ roundedMagnitude m := Nat.mul_le_mul_right _ (le_significand (by omega))

/-- Rounding commutes with powers of two. -/
theorem roundedMagnitude_mul_two_pow (n k : Nat) : roundedMagnitude (n * 2 ^ k) = roundedMagnitude n * 2 ^ k := by
  by_cases hn : n = 0
  · rw [hn, Nat.zero_mul, roundedMagnitude_of_le (Nat.zero_le _), Nat.zero_mul]
  have hlog : (n * 2 ^ k).log2 = n.log2 + k := by
    rw [Nat.log2_eq_iff (Nat.mul_ne_zero hn (Nat.ne_of_gt (Nat.two_pow_pos k)))]
    constructor
    · rw [Nat.pow_add]
      exact Nat.mul_le_mul_right _ (Nat.log2_self_le hn)
    · rw [Nat.add_right_comm, Nat.pow_add]
      exact Nat.mul_lt_mul_of_pos_right Nat.lt_log2_self (Nat.two_pow_pos k)
  by_cases hsmall : n.log2 ≤ 52
  · -- A number of few bits stays one of few bits.
    have hn' : roundedMagnitude n = n := by
      apply roundedMagnitude_of_dvd
      rw [Nat.sub_eq_zero_of_le hsmall]
      exact Nat.one_dvd n
    rw [hn']
    apply roundedMagnitude_of_dvd
    rw [hlog]
    exact Nat.dvd_trans (Nat.pow_dvd_pow 2 (by omega)) (Nat.dvd_mul_left _ n)
  · have hshift : n.log2 + k - 52 = n.log2 - 52 + k := by omega
    rw [roundedMagnitude, hlog, hshift, Nat.pow_add, roundHalfEven_mul_right _ _ (Nat.two_pow_pos k), ← Nat.mul_assoc]
    rfl

/-! ## Patterns -/

/-- The magnitude of a pattern of a unit and a significand of 53 bits, or of one bit more, or of the least unit. -/
theorem magnitude_of_code {x : Binary64} {shift significand : Nat} (hcode : x.code = shift * 2 ^ 52 + significand)
    (hle : significand ≤ 2 ^ 53) (hnormal : 2 ^ 52 ≤ significand ∨ shift = 0) : x.magnitude = significand * 2 ^ shift := by
  unfold magnitude Binary64.significand Binary64.shift
  by_cases hsmall : x.code < 2 ^ 52
  · have hzero : shift = 0 := by omega
    have hshift : x.code / 2 ^ 52 - 1 = 0 := by omega
    have hsignificand : x.code = significand := by omega
    rw [if_pos hsmall, hshift, hzero, hsignificand]
  · rw [if_neg hsmall]
    rcases Nat.lt_or_eq_of_le hle with hlt | heq
    · have hshift : x.code / 2 ^ 52 - 1 = shift := by omega
      have hsignificand : 2 ^ 52 + x.code % 2 ^ 52 = significand := by omega
      rw [hshift, hsignificand]
    · -- One bit more is the least significand of the next unit.
      have hshift : x.code / 2 ^ 52 - 1 = shift + 1 := by omega
      have hsignificand : 2 ^ 52 + x.code % 2 ^ 52 = 2 ^ 52 := by omega
      rw [hshift, hsignificand, heq, ← Nat.pow_add, ← Nat.pow_add]
      congr 1
      omega

/-- The pattern nearest to a whole number of units has the rounded magnitude. -/
theorem magnitude_of_nearestCode {x : Binary64} {n : Nat} (hcode : x.code = nearestCode n 1) : x.magnitude = roundedMagnitude n := by
  rw [nearestCode, Nat.div_one, Nat.one_mul] at hcode
  refine magnitude_of_code hcode (significand_le n) ?_
  by_cases hshift : n.log2 - 52 = 0
  · exact Or.inr hshift
  · exact Or.inl (le_significand hshift)

/-! ## Whole numbers -/

/-- A whole number rounded to a significand of 53 bits, a tie to the even one. -/
def rounded (n : Int) : Int :=
  if n < 0 then -(roundedMagnitude n.natAbs : Int) else roundedMagnitude n.natAbs

/-- A whole number is taken for the rounded one. -/
theorem units_ofInt (n : Int) (h : n.natAbs ≤ 2 ^ 64) : (ofInt n h).units = rounded n * one := by
  have hcode : (ofInt n h).code = nearestCode (n.natAbs * one) 1 := rfl
  have hmagnitude : (ofInt n h).magnitude = roundedMagnitude n.natAbs * one := by
    rw [magnitude_of_nearestCode hcode]
    unfold one
    exact roundedMagnitude_mul_two_pow n.natAbs 1074
  have hnegative : (ofInt n h).negative = decide (n < 0) := rfl
  rw [units, hmagnitude, hnegative, rounded]
  by_cases hn : n < 0
  · rw [if_pos (decide_eq_true hn), if_pos hn, Int.natCast_mul, Int.neg_mul]
  · rw [if_neg (by simpa using hn), if_neg hn, Int.natCast_mul]

/-- Zero is taken for the positive zero. -/
theorem ofInt_zero (h : (0 : Int).natAbs ≤ 2 ^ 64) : ofInt 0 h = zero := by
  simp [ofInt, zero, nearestCode, roundHalfEven]

/-- Rounding keeps the order of numbers. -/
theorem rounded_mono {n m : Int} (h : n ≤ m) : rounded n ≤ rounded m := by
  unfold rounded
  by_cases hn : n < 0
  · rw [if_pos hn]
    by_cases hm : m < 0
    · have hmagnitude : roundedMagnitude m.natAbs ≤ roundedMagnitude n.natAbs := roundedMagnitude_mono (by omega)
      rw [if_pos hm]
      omega
    · rw [if_neg hm]
      omega
  · have hm : ¬m < 0 := by omega
    have hmagnitude : roundedMagnitude n.natAbs ≤ roundedMagnitude m.natAbs := roundedMagnitude_mono (by omega)
    rw [if_neg hn, if_neg hm]
    omega

/-- A number of at most 2^53 in magnitude is not rounded. -/
theorem rounded_of_le {n : Int} (h : n.natAbs ≤ 2 ^ 53) : rounded n = n := by
  unfold rounded
  rw [roundedMagnitude_of_le h]
  omega

/-- Of two numbers that are rounded alike, each is of 2^53 at least in magnitude. -/
theorem le_of_rounded_eq {n m : Int} (hne : n ≠ m) (h : rounded n = rounded m) : 2 ^ 53 ≤ n.natAbs := by
  by_contra hsmall
  have hn : rounded n = n := rounded_of_le (by omega)
  have hlimit : rounded (2 ^ 53) = 2 ^ 53 := rounded_of_le (by decide)
  have hlimit' : rounded (-2 ^ 53) = -2 ^ 53 := rounded_of_le (by decide)
  -- The other is not rounded either, or it is not rounded to less than 2^53.
  by_cases hm : m.natAbs ≤ 2 ^ 53
  · rw [hn, rounded_of_le hm] at h
    exact hne h
  · rcases Int.lt_or_le m 0 with hneg | hpos
    · have hle : rounded m ≤ rounded (-2 ^ 53) := rounded_mono (by omega)
      omega
    · have hle : rounded (2 ^ 53) ≤ rounded m := rounded_mono (by omega)
      omega

/-- Rounding changes nothing about whether a number is less than another, if it keeps them apart. -/
theorem rounded_lt_iff {n m : Int} (apart : n ≠ m → rounded n ≠ rounded m) : rounded n < rounded m ↔ n < m := by
  constructor
  · intro h
    by_contra hle
    have hmono := rounded_mono (n := m) (m := n) (by omega)
    omega
  · intro h
    have hmono := rounded_mono (n := n) (m := m) (by omega)
    have hne := apart (by omega)
    omega

end Schemata.Binary64
