import Schemata.Unicode.CharSet

/-!
# Byte ranges of sets of characters

In UTF-8 a range of code points falls into blocks whose bytes vary independently: one range for each byte, and every choice of a
byte from each range writes a character of the block.
-/

namespace Schemata.Unicode

/-- The ranges of the bytes of some characters, the first byte first. -/
abbrev ByteRanges := List (Nat × Nat)

namespace ByteRanges

/-- The bytes of a code point. -/
def bytesOf (n : Nat) : List Nat :=
  let continuation := fun unit => 0x80 + n / unit % 64
  if n < 0x80 then [n]
  else if n < 0x800 then [0xC0 + n / 64, continuation 1]
  else if n < 0x10000 then [0xE0 + n / 4096, continuation 64, continuation 1]
  else [0xF0 + n / 262144, continuation 4096, continuation 64, continuation 1]

/-- The code points whose bytes are of one number, each run of them with the number of its bytes after the first. Surrogates are
left out. -/
def lengths : List (Nat × Nat × Nat) :=
  [(0, 0, 0x7F), (1, 0x80, 0x7FF), (2, 0x800, 0xD7FF), (2, 0xE000, 0xFFFF), (3, 0x10000, CharSet.last)]

/-- Cut a range at multiples of a unit, so that all but its ends consist of whole units, and the middle likewise at larger units,
each 64 times the one before. -/
def blocks (levels unit low high : Nat) : List (Nat × Nat) :=
  match levels with
  | 0 => [(low, high)]
  | levels + 1 =>
    let low' := (low + unit - 1) / unit * unit
    let high' := (high + 1) / unit * unit
    if low / unit = high / unit then [(low, high)]
    else (if low < low' then [(low, low' - 1)] else [])
      ++ (if low' / unit = high / unit then [(low', high)]
        else blocks levels (unit * 64) low' (high' - 1) ++ if high' ≤ high then [(high', high)] else [])

/-- The byte ranges of a range of code points, in order. -/
def ofRange (low high : Nat) : List ByteRanges :=
  lengths.flatMap fun (levels, first, last) =>
    let low := max low first
    let high := min high last
    if high < low then []
    else (blocks levels 64 low high).map fun block => (bytesOf block.1).zip (bytesOf block.2)

/-- The byte ranges of a set, in order. -/
def ofSet (s : CharSet) : List ByteRanges :=
  s.flatMap fun range => ofRange range.1 range.2

end ByteRanges

end Schemata.Unicode
