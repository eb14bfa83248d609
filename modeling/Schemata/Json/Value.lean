import Schemata.Json.Number
import Schemata.Mapping

/-!
# Documents

A document is a tree of scalars, arrays and objects. Equality (`same`) is by what is written: `1` and `1.0` differ, the two
zeros of a binary64 number do not.
-/

namespace Schemata

/-- A document or a part of one; the members of an object are in key order. -/
inductive Json where
  | null
  | bool (b : Bool)
  | num (n : Number)
  | str (s : String)
  | arr (items : List Json)
  | obj (members : List (String × Json))
deriving Inhabited

/-- The members of an object. -/
abbrev Members := Mapping Json

namespace Json

mutual

/-- Two documents are the same, member by member and item by item. -/
def same : Json → Json → Bool
  | .null, .null => true
  | .bool a, .bool b => a == b
  | .num a, .num b => a.same b
  | .str a, .str b => a == b
  | .arr a, .arr b => sameItems a b
  | .obj a, .obj b => sameMembers a b
  | _, _ => false
termination_by structural a => a

/-- Two runs of items are the same. -/
def sameItems : List Json → List Json → Bool
  | [], [] => true
  | a :: as, b :: bs => same a b && sameItems as bs
  | _, _ => false
termination_by structural a => a

/-- Two runs of members are the same, keys included. -/
def sameMembers : List (String × Json) → List (String × Json) → Bool
  | [], [] => true
  | (k, a) :: as, (l, b) :: bs => k == l && same a b && sameMembers as bs
  | _, _ => false
termination_by structural a => a

end

/-- The name of the type of a value. -/
def typeName : Json → String
  | .null => "null"
  | .bool _ => "boolean"
  | .num _ => "number"
  | .str _ => "string"
  | .arr _ => "array"
  | .obj _ => "object"

/-- The value of a member of an object. -/
def member? (v : Json) (key : String) : Option Json :=
  match v with
  | .obj members => Mapping.get? members key
  | _ => none

/-- An object with the given members, in any order. -/
def object (members : List (String × Json)) : Json :=
  .obj (Mapping.ofList members)

/-- The text or `null`. -/
def ofText? : Option String → Json
  | some s => .str s
  | none => .null

end Json

end Schemata
