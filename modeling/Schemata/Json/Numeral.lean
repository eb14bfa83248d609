import Schemata.Json.Number

/-!
# Reading numerals

A numeral without fraction and exponent is a whole number if it is in range. Any other is read in two rounded steps: the leading
digits that make a significand below 2^64, rounded, and then one multiplication or division by the power of ten, rounded too
(`scaled?`). Digits after those only move the exponent, and a magnitude past the largest number is refused.
-/

namespace Schemata.Numeral

/-- The value of a decimal digit. -/
def digitValue (c : Char) : Nat :=
  c.toNat - '0'.toNat

/-- Whether a character can stand in a numeral. -/
def isNumeralChar (c : Char) : Bool :=
  c.isDigit || c == '-' || c == '+' || c == '.' || c == 'e' || c == 'E'

/-- Append digits to a significand while it stays below 2^64; also the digits left over. -/
def extend (significand : Nat) : List Char → Nat × List Char
  | [] => (significand, [])
  | d :: rest =>
    let next := significand * 10 + digitValue d
    if next < 2 ^ 64 then extend next rest else (significand, d :: rest)

/-- The binary64 number nearest to a power of ten. -/
def powerOfTen? (k : Nat) : Option Binary64 :=
  Binary64.ofRatio? false (10 ^ k * Binary64.one) 1

/-- Divide by a power of ten, by 10^308 at a time. -/
def lowered? (x : Binary64) (k : Nat) : Option Binary64 :=
  if k ≤ 308 then do x.div? (← powerOfTen? k)
  else if x.code = 0 then some x
  else do lowered? (← x.div? (← powerOfTen? 308)) (k - 308)
termination_by k

/-- The number `significand * 10 ^ exponent`, in two rounded steps. -/
def scaled? (significand : Nat) (exponent : Int) : Option Binary64 := do
  let x ← Binary64.ofRatio? false (significand * Binary64.one) 1
  if exponent < 0 then lowered? x exponent.natAbs
  else if exponent ≤ 308 then x.mul? (← powerOfTen? exponent.toNat)
  else if x.code = 0 then some x
  else none

/-- The whole number that a run of digits writes. -/
def wholeValue (digits : List Char) : Nat :=
  digits.foldl (fun n d => n * 10 + digitValue d) 0

/-- A signed numeral without fraction and exponent; the negative zero is a binary64 number. -/
def ofWhole? (negative : Bool) (digits : List Char) : Option Number :=
  let n := wholeValue digits
  if h : negative = false ∧ n < 2 ^ 64 then some (.ofNat n h.2)
  else if h : negative = true ∧ 0 < n ∧ n ≤ 2 ^ 63 then some (.whole (-n) (by omega))
  else
    let (significand, left) := extend 0 digits
    (scaled? significand left.length).map fun x => .real { x with negative }

/-- A signed numeral of whole digits, fraction digits and an exponent. -/
def ofParts? (negative : Bool) (whole fraction : List Char) (exponent : Int) : Option Number :=
  let (leading, wholeLeft) := extend 0 whole
  let (significand, fractionLeft) := extend leading fraction
  let moved : Int := wholeLeft.length - (fraction.length - fractionLeft.length : Nat)
  (scaled? significand (moved + exponent)).map fun x => .real { x with negative }

/-- The exponent after its mark: a sign or none, and one digit or more. -/
def exponent? : List Char → Option Int
  | '-' :: digits => if digits ≠ [] ∧ digits.all Char.isDigit then some (-(wholeValue digits : Int)) else none
  | '+' :: digits => if digits ≠ [] ∧ digits.all Char.isDigit then some (wholeValue digits) else none
  | digits => if digits ≠ [] ∧ digits.all Char.isDigit then some (wholeValue digits) else none

/-- The numeral that starts with a minus sign or not, given what follows the sign. -/
def unsigned? (negative : Bool) (s : List Char) : Option Number :=
  let whole := s.takeWhile Char.isDigit
  if whole = [] ∨ (whole.head? = some '0' ∧ whole.length ≠ 1) then none
  else match s.dropWhile Char.isDigit with
    | [] => ofWhole? negative whole
    | '.' :: rest =>
      let fraction := rest.takeWhile Char.isDigit
      if fraction = [] then none
      else match rest.dropWhile Char.isDigit with
        | [] => ofParts? negative whole fraction 0
        | mark :: rest =>
          if mark = 'e' ∨ mark = 'E' then (exponent? rest).bind (ofParts? negative whole fraction) else none
    | mark :: rest =>
      if mark = 'e' ∨ mark = 'E' then (exponent? rest).bind (ofParts? negative whole []) else none

/-- The number that a numeral writes. -/
def read? : List Char → Option Number
  | '-' :: rest => unsigned? true rest
  | s => unsigned? false s

end Schemata.Numeral
