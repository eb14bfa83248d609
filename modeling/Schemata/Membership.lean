import Schemata.Json.Printer
import Schemata.Reference

/-!
# Sets of values

A set that a value has to be in, or must not be in. Its entries are values and references to fields beside the value under test;
a reference that leads nowhere is no entry. Two numbers that stand for one quantity are one entry.
-/

namespace Schemata

/-- An entry of a set of values. -/
inductive Allowed where
  | value (v : Json)
  | reference (r : Reference)

/-- A set of values, with a message of its own or none. -/
structure Membership where
  values : List Allowed
  message : Option String

namespace Allowed

/-- The value that an entry stands for, given the object around the value under test. -/
def resolve (entry : Allowed) (parent : Option Members) : Option Json :=
  match entry with
  | .value v => some v
  | .reference r => r.resolve parent

/-- Two entries are written alike. -/
def same : Allowed → Allowed → Bool
  | .value v, .value w => v.same w
  | .reference r, .reference s => r == s
  | _, _ => false

/-- An entry as a document. -/
def toJson : Allowed → Json
  | .value v => v
  | .reference r => .obj [("$ref", .str r.path)]

end Allowed

namespace Membership

/-- Two values are one entry: numbers by quantity, all else by what is written. -/
def sameEntry : Json → Json → Bool
  | .num n, .num m => n.toBinary64.same m.toBinary64
  | v, w => v.same w

/-- A value is in a set. -/
def contains (set : Membership) (v : Json) (parent : Option Members) : Bool :=
  set.values.any fun entry => (entry.resolve parent).any (sameEntry · v)

/-- The entries of a set in words. -/
def listed (set : Membership) (parent : Option Members) : String :=
  ", ".intercalate (set.values.map fun entry => ((entry.resolve parent).map Json.text).getD "undefined")

/-- Two sets are written alike. -/
def same (a b : Membership) : Bool :=
  a.values.length == b.values.length && (a.values.zip b.values).all (fun (x, y) => x.same y) && a.message == b.message

end Membership

end Schemata
