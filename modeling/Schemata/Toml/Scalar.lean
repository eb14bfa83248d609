import Schemata.Decimal.Nearest
import Schemata.Json.Reader
import Schemata.Text.Segments

/-!
# Bare values of TOML documents

Truth values, whole numbers of 64 bits in four bases, numbers with a fraction or an exponent, dates and times. What the data model
of documents has no form for is read as what says least: a date or a time as an object without members, and what is no finite
number as zero.
-/

namespace Schemata.Toml

/-- Digits with single underscores between them. -/
def digits? (isDigit : Char → Bool) (s : List Char) : Option (List Char) :=
  let parts := Text.segmentsOf '_' s
  if parts.all fun part => !part.isEmpty && part.all isDigit then some parts.flatten else none

/-- Decimal digits without a leading zero. -/
def decimal? (s : List Char) : Option (List Char) :=
  (digits? Char.isDigit s).filter fun ds => ds.length = 1 || ds.head? ≠ some '0'

/-- The sign of a number, and what follows it. -/
def signed : List Char → Bool × List Char
  | '-' :: rest => (true, rest)
  | '+' :: rest => (false, rest)
  | s => (false, s)

/-- A whole number that has 64 bits. -/
def whole? (negative : Bool) (n : Nat) : Option Json :=
  if h : negative = false ∧ n < 2 ^ 63 then some (.num (.whole n (by omega)))
  else if h : negative = true ∧ n ≤ 2 ^ 63 then some (.num (.whole (-n) (by omega)))
  else none

/-- A digit of a base of at most sixteen. -/
def isDigitOf (base : Nat) (c : Char) : Bool :=
  (Json.hexValue? c).any (· < base)

/-- A whole number in a base other than ten. -/
def based? (base : Nat) (s : List Char) : Option Json := do
  let ds ← digits? (isDigitOf base) s
  whole? false (ds.foldl (fun n d => n * base + ((Json.hexValue? d).getD 0)) 0)

/-- A whole number. -/
def integer? : List Char → Option Json
  | '0' :: 'x' :: s => based? 16 s
  | '0' :: 'o' :: s => based? 8 s
  | '0' :: 'b' :: s => based? 2 s
  | s => do
    let (negative, s) := signed s
    whole? negative (Numeral.wholeValue (← decimal? s))

/-- The exponent after its mark. -/
def exponent? (s : List Char) : Option Int := do
  let (negative, s) := signed s
  let n : Int := Numeral.wholeValue (← digits? Char.isDigit s)
  return if negative then -n else n

/-- What stands for an infinity and for what is no number. -/
def nonfinite : Json := .num (.ofNat 0 (by decide))

/-- The number of a sign, whole digits, fraction digits and an exponent. One that is too large is refused if it is positive, and
the infinity if it is negative. -/
def decimalNumber? (negative : Bool) (whole fraction : List Char) (exponent : Int) : Option Json :=
  match (Decimal.mk (Numeral.wholeValue (whole ++ fraction)) (exponent - fraction.length)).nearest? negative with
  | some x => some (.num (.real x))
  | none => if negative then some nonfinite else none

/-- A number with a fraction, an exponent, or both. -/
def fractional? (s : List Char) : Option Json := do
  let (negative, s) := signed s
  let isPart := fun (c : Char) => c.isDigit || c == '_'
  let whole ← decimal? (s.takeWhile isPart)
  match s.dropWhile isPart with
  | '.' :: rest =>
    let fraction ← digits? Char.isDigit (rest.takeWhile isPart)
    match rest.dropWhile isPart with
    | [] => decimalNumber? negative whole fraction 0
    | c :: rest => if c = 'e' ∨ c = 'E' then decimalNumber? negative whole fraction (← exponent? rest) else none
  | c :: rest => if c = 'e' ∨ c = 'E' then decimalNumber? negative whole [] (← exponent? rest) else none
  | [] => none

/-- Infinities and what is no number, with a sign or none. -/
def isNonfinite (s : List Char) : Bool :=
  let word := String.ofList (signed s).2
  word == "inf" || word == "nan"

/-! ## Dates and times -/

/-- The number that digits write, when it is in a range. -/
def field? (digits : List Char) (least most : Nat) : Option Nat :=
  if digits.all Char.isDigit then
    let n := Numeral.wholeValue digits
    if least ≤ n ∧ n ≤ most then some n else none
  else none

/-- The number of days of a month. -/
def daysOf (year month : Nat) : Nat :=
  if month = 2 then if year % 4 = 0 ∧ (year % 100 ≠ 0 ∨ year % 400 = 0) then 29 else 28
  else if [4, 6, 9, 11].contains month then 30
  else 31

/-- What follows a date. -/
def afterDate? : List Char → Option (List Char)
  | a :: b :: c :: d :: '-' :: e :: f :: '-' :: g :: h :: rest => do
    let year ← field? [a, b, c, d] 0 9999
    let month ← field? [e, f] 1 12
    let _ ← field? [g, h] 1 (daysOf year month)
    return rest
  | _ => none

/-- What follows a time of day, a fraction of a second included. -/
def afterTime? : List Char → Option (List Char)
  | a :: b :: ':' :: c :: d :: ':' :: e :: f :: rest => do
    let _ ← field? [a, b] 0 23
    let _ ← field? [c, d] 0 59
    let _ ← field? [e, f] 0 60
    match rest with
    | '.' :: fraction => if (fraction.takeWhile Char.isDigit).isEmpty then none else return fraction.dropWhile Char.isDigit
    | rest => return rest
  | _ => none

/-- A distance from universal time, or nothing. -/
def isZone : List Char → Bool
  | [] => true
  | [c] => c == 'Z' || c == 'z'
  | [sign, a, b, ':', c, d] => (sign == '+' || sign == '-') && (field? [a, b] 0 23).isSome && (field? [c, d] 0 59).isSome
  | _ => false

/-- A date, a time of day, or both. -/
def isMoment (s : List Char) : Bool :=
  match afterDate? s with
  | some [] => true
  | some (c :: rest) => (c == 'T' || c == 't' || c == ' ') && (afterTime? rest).any isZone
  | none => (afterTime? s).any List.isEmpty

/-- The value that a bare run of characters writes. -/
def scalarValue? (s : List Char) : Option Json :=
  if s = "true".toList then some (.bool true)
  else if s = "false".toList then some (.bool false)
  else if isNonfinite s then some nonfinite
  else if isMoment s then some (.obj [])
  else (integer? s).or (fractional? s)

end Schemata.Toml
