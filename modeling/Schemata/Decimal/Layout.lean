import Schemata.Decimal.Shortest

/-!
# Layouts of decimals

A decimal is written positionally (`0.00015`, `1500.0`) or scientifically (`1.5e+20`). A `Layout` says which, by where the point
stands, and whether a whole number keeps a `.0`.
-/

namespace Schemata

/-- How a decimal is written: positionally when `positional` holds of the place of its point, scientifically otherwise. -/
structure Layout where
  positional : Int → Bool
  keepsPoint : Bool

namespace Decimal

/-- A run of zeros. -/
def zeros (n : Nat) : String :=
  String.ofList (List.replicate n '0')

/-- The place of the point, counted from before the first digit. -/
def point (d : Decimal) : Int :=
  digitCount d.digits + d.exponent

/-- Positional notation: `150`, `1.5`, `0.0015`. -/
def positionalText (keepsPoint : Bool) (d : Decimal) : String :=
  let digits := toString d.digits
  let count := digitCount d.digits
  if d.digits = 0 then if keepsPoint then "0.0" else "0"
  else if d.point ≤ 0 then "0." ++ zeros (-d.point).toNat ++ digits
  else if d.point.toNat < count then
    String.ofList (digits.toList.take d.point.toNat) ++ "." ++ String.ofList (digits.toList.drop d.point.toNat)
  else digits ++ zeros d.exponent.toNat ++ (if keepsPoint then ".0" else "")

/-- Scientific notation with a signed exponent: `1e+16`, `1.5e-7`. -/
def scientificText (d : Decimal) : String :=
  let fraction := (toString d.digits).toList.drop 1
  let exponent := d.point - 1
  String.ofList ((toString d.digits).toList.take 1)
    ++ (if fraction.isEmpty then "" else "." ++ String.ofList fraction)
    ++ "e" ++ (if exponent < 0 then "-" else "+") ++ toString exponent.natAbs

/-- The text of a decimal under a layout. -/
def text (layout : Layout) (d : Decimal) : String :=
  if layout.positional d.point then d.positionalText layout.keepsPoint else d.scientificText

end Decimal

namespace Layout

/-- The digits of a number in a document: positional from 1e-5 up to but not including 1e16, always with a point or an exponent. -/
def document : Layout := ⟨fun point => -4 ≤ point && point ≤ 16, true⟩

/-- The digits of a number in a message: positional whatever its size, and bare when it is whole. -/
def message : Layout := ⟨fun _ => true, false⟩

end Layout

namespace Binary64

/-- The text of a number under a layout; a negative zero keeps its sign. -/
def text (layout : Layout) (x : Binary64) : String :=
  (if x.negative then "-" else "") ++ x.shortest.text layout

end Binary64

end Schemata
