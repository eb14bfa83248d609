import Schemata.Schema.Basic

/-!
# Describing schemas

A schema as a document: its kind, presence and nullability, its label, the names of its rules, its sets, and the descriptions of
its fields or items.
-/

namespace Schemata.Schema

/-- A member of a description, if there is something to say. -/
def entry? {α : Type} (key : String) (toJson : α → Json) : Option α → List (String × Json)
  | some a => [(key, toJson a)]
  | none => []

/-- A set as a document: the list of its entries. -/
def describeSet (set : Membership) : Json :=
  .arr (set.values.map Allowed.toJson)

mutual

/-- The description of a schema. -/
def describe (s : Schema) : Json :=
  match s with
  | ⟨kind, isRequired, _, isNullable, labelText, rules, oneOfSet, notOneOfSet⟩ =>
    .object ([("type", .str kind.tag.name), ("required", .bool isRequired), ("nullable", .bool isNullable),
        ("tests", .arr (rules.map fun r => .str r.name))]
      ++ entry? "label" .str labelText
      ++ entry? "oneOf" describeSet oneOfSet
      ++ entry? "notOneOf" describeSet notOneOfSet
      ++ (match kind with
        | .object fields => [("fields", .obj (describeFields fields))]
        | .array (some element) => [("element", describe element)]
        | _ => []))
termination_by structural s

/-- The descriptions of fields. -/
def describeFields (fields : List (String × Schema)) : List (String × Json) :=
  match fields with
  | [] => []
  | (key, field) :: rest => (key, describe field) :: describeFields rest
termination_by structural fields

end

end Schemata.Schema
