import Schemata.Schema.Basic

/-!
# Checking values

A value is checked in a fixed order: presence, null, kind, the empty text, the two sets, the rules, and last its parts. The first
thing wrong with the value itself is reported alone (`ownViolation?`); wrong parts are reported together, each under its key or
index (`violation?`). Fields see the object they belong to as the one around them, items see the one around the array.
-/

namespace Schemata.Schema

/-- What is said of a value that has to be there and is not. -/
def requiredViolation (s : Schema) : Violation :=
  let plain := Violation.required
  { plain with message := s.requiredMessage.getD plain.message }

/-- A value is of another kind. -/
def kindViolation? (s : Schema) (v : Json) : Option Violation :=
  if s.tag.admits v then none else some (.typeMismatch s.tag.name v.typeName)

/-- A text that has to be there is empty. -/
def emptyViolation? (s : Schema) (v : Json) : Option Violation :=
  match s.isRequired, s.tag, v with
  | true, .string, .str "" => some s.requiredViolation
  | _, _, _ => none

/-- What is said of a value that a set does not allow. -/
def membershipViolation (code phrase : String) (set : Membership) (parent : Option Members) : Violation :=
  let listed := set.listed parent
  (Violation.of code (set.message.getD (phrase ++ ": " ++ listed))).withParam "values" listed

/-- A value is missing from the set it has to be in. -/
def oneOfViolation? (s : Schema) (v : Json) (parent : Option Members) : Option Violation :=
  match s.oneOfSet with
  | some set => if set.contains v parent then none else some (membershipViolation "one_of" "Must be one of" set parent)
  | none => none

/-- A value is in the set it must not be in. -/
def notOneOfViolation? (s : Schema) (v : Json) (parent : Option Members) : Option Violation :=
  match s.notOneOfSet with
  | some set => if set.contains v parent then some (membershipViolation "not_one_of" "Must not be one of" set parent) else none
  | none => none

/-- The violation of the first rule that does not accept a value. -/
def ruleViolation? (s : Schema) (v : Json) : Option Violation :=
  s.rules.findSome? (·.violation? v)

/-- The first thing wrong with a value that is there and is not excused by being null. -/
def bodyViolation? (s : Schema) (v : Json) (parent : Option Members) : Option Violation :=
  s.kindViolation? v
    <|> s.emptyViolation? v
    <|> s.oneOfViolation? v parent
    <|> s.notOneOfViolation? v parent
    <|> s.ruleViolation? v

/-- The first thing wrong with a value itself, its parts aside; `none` for the value means that there is none. -/
def ownViolation? (s : Schema) (v : Option Json) (parent : Option Members) : Option Violation :=
  let found :=
    match v with
    | none => if s.isRequired then some s.requiredViolation else none
    | some .null =>
      if s.isRequired then some s.requiredViolation
      else if s.isNullable then none
      else s.bodyViolation? .null parent
    | some v => s.bodyViolation? v parent
  found.map (·.labelled s.labelText)

/-- The violations of parts, together. -/
def together (code message : String) (label : Option String) (parts : List Violation) : Option Violation :=
  if parts.isEmpty then none else some (((Violation.of code message).withNested parts).labelled label)

mutual

/-- What is wrong with a value, if anything is, given the object around it. -/
def violation? (s : Schema) (v : Option Json) (parent : Option Members) : Option Violation :=
  s.ownViolation? v parent <|>
    match s, v with
    | ⟨.object fields, _, _, _, label, _, _, _⟩, some (.obj members) =>
      together "object" "Object validation failed" label (fieldViolations fields members)
    | ⟨.array (some element), _, _, _, label, _, _, _⟩, some (.arr items) =>
      together "array" "Array validation failed" label
        (items.zipIdx.filterMap fun (item, i) => (violation? element (some item) parent).map (·.under (toString i)))
    | _, _ => none
termination_by structural s

/-- What is wrong with the fields of an object, each under its key. -/
def fieldViolations (fields : List (String × Schema)) (members : Members) : List Violation :=
  match fields with
  | [] => []
  | (key, field) :: rest =>
    ((violation? field (members.get? key) (some members)).map (·.under key)).toList ++ fieldViolations rest members
termination_by structural fields

end

/-- What is wrong with a value or its absence, if anything is. -/
def check (s : Schema) (v : Option Json) : Option Violation :=
  s.violation? v none

/-- A value, or its absence, is accepted. -/
def isValid (s : Schema) (v : Option Json) : Bool :=
  (s.check v).isNone

end Schemata.Schema
