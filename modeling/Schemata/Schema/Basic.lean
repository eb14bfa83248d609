import Schemata.Membership
import Schemata.Rule

/-!
# Schemas

A schema says what values are accepted: their kind, whether one has to be there, whether it may be null, rules, sets of values,
and schemas for the fields of an object or the items of an array. Each refinement gives a new schema.
-/

namespace Schemata

/-- The kinds of values. -/
inductive Tag where
  | mixed
  | string
  | number
  | boolean
  | object
  | array
deriving DecidableEq

/-- The name of a kind. -/
def Tag.name : Tag → String
  | .mixed => "mixed"
  | .string => "string"
  | .number => "number"
  | .boolean => "boolean"
  | .object => "object"
  | .array => "array"

/-- A value is of a kind; every value is of mixed kind. -/
def Tag.admits : Tag → Json → Bool
  | .mixed, _ => true
  | .string, .str _ => true
  | .number, .num _ => true
  | .boolean, .bool _ => true
  | .object, .obj _ => true
  | .array, .arr _ => true
  | _, _ => false

/-- A kind of values, with what is known of the parts: the fields of an object, the items of an array. -/
inductive Kind (α : Type) where
  | mixed
  | string
  | number
  | boolean
  | object (fields : List (String × α))
  | array (element : Option α)

namespace Kind

variable {α : Type}

/-- A kind without its parts. -/
def tag : Kind α → Tag
  | .mixed => .mixed
  | .string => .string
  | .number => .number
  | .boolean => .boolean
  | .object _ => .object
  | .array _ => .array

/-- A kind of which nothing is known of the parts. -/
def ofTag : Tag → Kind α
  | .mixed => .mixed
  | .string => .string
  | .number => .number
  | .boolean => .boolean
  | .object => .object []
  | .array => .array none

@[simp] theorem tag_ofTag (t : Tag) : (ofTag t : Kind α).tag = t := by
  cases t <;> rfl

end Kind

/-- What values are accepted. -/
structure Schema where
  kind : Kind Schema
  isRequired : Bool
  requiredMessage : Option String
  isNullable : Bool
  labelText : Option String
  rules : List Rule
  oneOfSet : Option Membership
  notOneOfSet : Option Membership

namespace Schema

/-- The schema of a kind, with nothing asked beyond it. -/
def ofTag (t : Tag) : Schema :=
  ⟨.ofTag t, false, none, false, none, [], none, none⟩

/-- The kind of a schema, without its parts. -/
def tag (s : Schema) : Tag :=
  s.kind.tag

/-! ## Refinements -/

/-- A value has to be there; a message says so in place of the usual one. -/
def required (s : Schema) (message : Option String) : Schema :=
  { s with isRequired := true, requiredMessage := message }

/-- A value need not be there. -/
def optional (s : Schema) : Schema :=
  { s with isRequired := false, requiredMessage := none }

/-- Null is accepted, or not. -/
def nullable (s : Schema) (flag : Bool) : Schema :=
  { s with isNullable := flag }

/-- Name the value in what is said of it. -/
def label (s : Schema) (text : String) : Schema :=
  { s with labelText := some text }

/-- Add a rule after those already there. -/
def rule (s : Schema) (r : Rule) : Schema :=
  { s with rules := s.rules ++ [r] }

/-- Add a rule, with a message of its own if there is one. -/
def ruleWithMessage (s : Schema) (r : Rule) (message : Option String) : Schema :=
  s.rule (r.withMessage? message)

/-- The value has to be in a set. -/
def oneOf (s : Schema) (values : List Allowed) (message : Option String) : Schema :=
  { s with oneOfSet := some ⟨values, message⟩ }

/-- The value must not be in a set. -/
def notOneOf (s : Schema) (values : List Allowed) (message : Option String) : Schema :=
  { s with notOneOfSet := some ⟨values, message⟩ }

/-- Objects with the given fields besides those already known; a schema of another kind becomes one of objects. -/
def shape (s : Schema) (fields : Mapping Schema) : Schema :=
  match s.kind with
  | .object known => { s with kind := .object (Mapping.insertAll known fields) }
  | _ => { s with kind := .object fields }

/-- Arrays with items of a schema. -/
def of (s : Schema) (element : Schema) : Schema :=
  { s with kind := .array (some element) }

/-! ## Parts -/

/-- The schemas of the fields, if the schema is one of objects. -/
def fields? (s : Schema) : Option (Mapping Schema) :=
  match s.kind with
  | .object fields => some fields
  | _ => none

/-- The schema of the items, if there is one. -/
def element? (s : Schema) : Option Schema :=
  match s.kind with
  | .array element => element
  | _ => none

end Schema

end Schemata
