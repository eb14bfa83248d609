import Schemata.Json.Value

/-!
# Documents as records

A record is written as an object, which may leave fields out and may have members that are no fields, or as a list of the first
fields in order; whether the list may go on after them is for the reader to say. A field that is left out has its default value; a field of the wrong form is refused.
-/

namespace Schemata.Json

/-- What becomes of the items of a list that follow those for the fields. -/
inductive Surplus where
  | refused
  | ignored
deriving DecidableEq

/-- The fields of a record, whose names are given in order. -/
def fields? (surplus : Surplus) (names : List String) : Json → Option Members
  | .obj members => some members
  | .arr items =>
    if items.length ≤ names.length ∨ surplus = .ignored then some (Mapping.ofList (names.zip items)) else none
  | _ => none

/-- A field, or its default value when it is left out. -/
def fieldOr? {α : Type} (fields : Members) (name : String) (read? : Json → Option α) (default : α) : Option α :=
  match fields.get? name with
  | some v => read? v
  | none => some default

/-- A text. -/
def asText? : Json → Option String
  | .str s => some s
  | _ => none

/-- A truth value. -/
def asBool? : Json → Option Bool
  | .bool b => some b
  | _ => none

/-- A word that stands for itself: a text, or the key of an only member without a value. -/
def asWord? : Json → Option String
  | .str s => some s
  | .obj [(key, .null)] => some key
  | _ => none

@[simp] theorem fieldOr?_of_get? {α : Type} {fields : Members} {name : String} {v : Json} (read? : Json → Option α) (default : α)
    (h : fields.get? name = some v) : fieldOr? fields name read? default = read? v := by
  simp [fieldOr?, h]

@[simp] theorem fieldOr?_of_missing {α : Type} {fields : Members} {name : String} (read? : Json → Option α) (default : α)
    (h : fields.get? name = none) : fieldOr? fields name read? default = some default := by
  simp [fieldOr?, h]

end Schemata.Json
