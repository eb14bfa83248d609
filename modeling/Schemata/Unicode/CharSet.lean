/-!
# Sets of characters

A set of code points is a list of ranges, in increasing order and apart. `ofRanges` puts any ranges into that form, and the
operations of classes (union, intersection, difference, complement) are stated on it.
-/

namespace Schemata.Unicode

/-- Ranges of code points, both ends included. -/
abbrev CharSet := List (Nat × Nat)

/-- Sets are compared range by range, unless both are one object. -/
instance : DecidableEq CharSet := fun a b =>
  withPtrEqDecEq a b fun _ => inferInstanceAs (Decidable ((a : List (Nat × Nat)) = b))

namespace CharSet

/-- The last code point. -/
def last : Nat := 0x10FFFF

/-- A code point is in a set. -/
def has (s : CharSet) (n : Nat) : Bool :=
  s.any fun range => range.1 ≤ n && n ≤ range.2

/-- A character is in a set. -/
def contains (s : CharSet) (c : Char) : Bool :=
  s.has c.toNat

/-- The set of one code point. -/
def single (n : Nat) : CharSet := [(n, n)]

/-- Every code point. -/
def full : CharSet := [(0, last)]

/-- Join a range with the ranges after it, in order of their first code points, that touch or overlap. -/
def joinedFrom (low high : Nat) : List (Nat × Nat) → CharSet
  | [] => [(low, high)]
  | (low', high') :: rest =>
    if low' ≤ high + 1 then joinedFrom low (max high high') rest else (low, high) :: joinedFrom low' high' rest

/-- The set of ranges in any order. -/
def ofRanges (ranges : List (Nat × Nat)) : CharSet :=
  match ranges.mergeSort fun a b => a.1 ≤ b.1 with
  | [] => []
  | (low, high) :: rest => joinedFrom low high rest

/-- What is in one set or the other. -/
def union (a b : CharSet) : CharSet :=
  ofRanges (a ++ b)

/-- The gaps of a set from a code point on. -/
def gapsFrom (start : Nat) : CharSet → CharSet
  | [] => if start ≤ last then [(start, last)] else []
  | (low, high) :: rest =>
    if start < low then (start, low - 1) :: gapsFrom (high + 1) rest else gapsFrom (high + 1) rest

/-- What is not in a set. -/
def complement (a : CharSet) : CharSet :=
  gapsFrom 0 a

/-- What is in both sets. -/
def inter (a b : CharSet) : CharSet :=
  ofRanges (a.flatMap fun (low, high) => b.filterMap fun (low', high') =>
    if max low low' ≤ min high high' then some (max low low', min high high') else none)

/-- What is in the first set only. -/
def diff (a b : CharSet) : CharSet :=
  a.inter b.complement

/-- What is in exactly one of the sets. -/
def symmDiff (a b : CharSet) : CharSet :=
  (a.diff b).union (b.diff a)

/-! ## Sets from tables -/

/-- The value of a hexadecimal numeral. -/
def hexValue (s : String) : Nat :=
  s.toList.foldl (fun n c => n * 16 + (if c.isDigit then c.toNat - '0'.toNat else c.toNat - 'a'.toNat + 10)) 0

/-- The ranges of a row of a table: the distance from the end of the range before, and from the first to the last. -/
def ofSteps (start : Nat) : List String → CharSet
  | gap :: length :: rest =>
    let low := start + hexValue gap
    let high := low + hexValue length
    (low, high) :: ofSteps (high + 1) rest
  | _ => []

/-- The set that a row of a table writes. -/
def ofRow (row : List String) : CharSet :=
  ofSteps 0 (row.flatMap (·.splitOn " "))

/-- The set that a table has under a name. -/
def lookup? (table : List (String × List String)) (name : String) : Option CharSet :=
  (table.find? fun row => (row.1.splitOn " ").contains name).map fun row => ofRow row.2

/-- The pairs of code points that a run of a case table writes. -/
def pairsOfRun (run : String) : List (Nat × Nat) :=
  match run.splitOn ":" with
  | [first, count, step, distance] =>
    let distance : Int :=
      match distance.toList with
      | '-' :: digits => -(hexValue (String.ofList digits) : Int)
      | digits => hexValue (String.ofList digits)
    (List.range (hexValue count)).map fun i =>
      let n := hexValue first + i * hexValue step
      (n, ((n : Int) + distance).toNat)
  | _ => []

end CharSet

end Schemata.Unicode
