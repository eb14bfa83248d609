import Schemata.Decimal.Shortest

/-!
# The number nearest to a decimal

The binary64 number nearest to a decimal is found by one exact division, whatever the number of digits. Decimals far outside the
range of binary64 are told by their size, without writing the power of ten out.
-/

namespace Schemata.Decimal

/-- The binary64 number nearest to a decimal under a sign, unless that is too large. -/
def nearest? (d : Decimal) (negative : Bool) : Option Binary64 :=
  let size := digitCount d.digits + d.exponent
  if d.digits = 0 ∨ size < -330 then some { Binary64.zero with negative }
  else if 310 < size then none
  else if d.exponent < 0 then Binary64.ofRatio? negative (d.digits * Binary64.one) (10 ^ d.exponent.natAbs)
  else Binary64.ofRatio? negative (d.digits * 10 ^ d.exponent.toNat * Binary64.one) 1

end Schemata.Decimal
