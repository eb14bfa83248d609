import Schemata.Proofs.Mapping
import Schemata.Term

/-!
# Well-formed terms

A term is well-formed when, at every depth, its literals are scalars, its references lead somewhere, the entries of its sets are
scalars or such references, and the rules of each schema constrain values of the kind of that schema (`Rule.Constrains`). A rule
accepts every value of another kind, so on a schema of another kind it would say nothing.

Refinements keep schemas well-formed when what they add is, and when the rules they add are for the kind of the schema.
-/

namespace Schemata

/-- A scalar: no array and no object. -/
def Json.IsScalar : Json → Prop
  | .arr _ | .obj _ => False
  | _ => True

/-- A rule constrains the values of a kind; a message does not change which. -/
def Rule.Constrains (tag : Tag) : Rule → Prop
  | .min _ | .max _ | .moreThan _ | .lessThan _ | .integer => tag = .number
  | .minLength _ | .maxLength _ | .exactLength _ | .matching _ | .email | .url | .lowercase | .uppercase => tag = .string
  | .minSize _ | .maxSize _ | .exactSize _ => tag = .array
  | .predicate _ _ _ => False
  | .withMessage inner _ => inner.Constrains tag

/-- A reference to a field with a path. -/
def Reference.WellFormed (r : Reference) : Prop :=
  r.path ≠ ""

/-- An entry of a set that is a scalar or a well-formed reference. -/
def Allowed.WellFormed : Allowed → Prop
  | .value v => v.IsScalar
  | .reference r => r.WellFormed

/-- A set of scalars and well-formed references. -/
def Membership.WellFormed (set : Membership) : Prop :=
  ∀ entry ∈ set.values, entry.WellFormed

/-- A schema with rules for its kind and well-formed sets, whose fields or items have such schemas in turn. -/
inductive Schema.WellFormed : Schema → Prop where
  | intro {s : Schema} (rules : ∀ r ∈ s.rules, r.Constrains s.tag) (oneOf : ∀ set ∈ s.oneOfSet, set.WellFormed)
      (notOneOf : ∀ set ∈ s.notOneOfSet, set.WellFormed)
      (fields : ∀ fields, s.kind = .object fields → ∀ field ∈ fields, Schema.WellFormed field.2)
      (element : ∀ element, s.kind = .array (some element) → Schema.WellFormed element) : Schema.WellFormed s

/-- A term that is well-formed at every depth. -/
inductive Term.WellFormed : Term → Prop where
  | literal {v : Json} (h : v.IsScalar) : Term.WellFormed (.literal v)
  | pattern (p : Pattern) : Term.WellFormed (.pattern p)
  | list {items : List Term} (h : ∀ item ∈ items, Term.WellFormed item) : Term.WellFormed (.list items)
  | shape {fields : List (String × Term)} (h : ∀ field ∈ fields, Term.WellFormed field.2) : Term.WellFormed (.shape fields)
  | schema {s : Schema} (h : s.WellFormed) : Term.WellFormed (.schema s)
  | reference {r : Reference} (h : r.WellFormed) : Term.WellFormed (.reference r)

/-- A rule with a message constrains what the rule constrains. -/
theorem Rule.Constrains.withMessage? {tag : Tag} {r : Rule} (h : r.Constrains tag) (message : Option String) :
    (r.withMessage? message).Constrains tag := by
  cases message with
  | none => exact h
  | some message => exact h

namespace Schema

variable {s : Schema}

/-! ## Parts of a well-formed schema -/

theorem WellFormed.rules (h : s.WellFormed) : ∀ r ∈ s.rules, r.Constrains s.tag := by
  cases h with
  | intro rules _ _ _ _ => exact rules

/-! ## Refinements -/

/-- A schema of a kind is well-formed. -/
theorem wellFormed_ofTag (t : Tag) : (ofTag t).WellFormed := by
  have hk : (ofTag t).kind = .ofTag t := rfl
  refine .intro nofun nofun nofun (fun fields h => ?_) (fun element h => ?_)
  · rw [hk] at h
    cases t <;> cases h
    exact nofun
  · rw [hk] at h
    cases t <;> cases h

/-- What is said of presence, null and name is no part of being well-formed. -/
theorem WellFormed.of_eq {s' : Schema} (h : s.WellFormed) (kind : s'.kind = s.kind) (rules : s'.rules = s.rules)
    (oneOf : s'.oneOfSet = s.oneOfSet) (notOneOf : s'.notOneOfSet = s.notOneOfSet) : s'.WellFormed := by
  cases h with
  | intro hr ho hn hf he =>
    have htag : s'.tag = s.tag := congrArg Kind.tag kind
    refine .intro ?_ (oneOf ▸ ho) (notOneOf ▸ hn) (kind ▸ hf) (kind ▸ he)
    rw [rules, htag]
    exact hr

/-- A rule for the kind of the schema may be added. -/
theorem WellFormed.ruleWithMessage (h : s.WellFormed) {r : Rule} (hr : r.Constrains s.tag) (message : Option String) :
    (s.ruleWithMessage r message).WellFormed := by
  cases h with
  | intro rules ho hn hf he =>
    refine .intro (fun r' hr' => ?_) ho hn hf he
    rcases List.mem_append.mp hr' with h | h
    · exact rules r' h
    · rw [List.mem_singleton.mp h]
      exact hr.withMessage? message

/-- A set of scalars and references may be set. -/
theorem WellFormed.oneOf (h : s.WellFormed) {values : List Allowed} (hv : ∀ entry ∈ values, entry.WellFormed)
    (message : Option String) : (s.oneOf values message).WellFormed := by
  cases h with
  | intro rules _ hn hf he =>
    refine .intro rules (fun set hset => ?_) hn hf he
    cases hset
    exact hv

/-- So may a set that a value must not be in. -/
theorem WellFormed.notOneOf (h : s.WellFormed) {values : List Allowed} (hv : ∀ entry ∈ values, entry.WellFormed)
    (message : Option String) : (s.notOneOf values message).WellFormed := by
  cases h with
  | intro rules ho _ hf he =>
    refine .intro rules ho (fun set hset => ?_) hf he
    cases hset
    exact hv

/-- A schema of objects may be given fields with well-formed schemas. -/
theorem WellFormed.shape (h : s.WellFormed) (htag : s.tag = .object) {fields : Mapping Schema}
    (hfields : ∀ field ∈ fields, field.2.WellFormed) : (s.shape fields).WellFormed := by
  cases h with
  | intro rules ho hn hf he =>
    unfold Schema.shape
    split
    · rename_i known hk
      refine .intro (fun r hr => ?_) ho hn (fun fields' h field hm => ?_) nofun
      · exact (htag ▸ rules r hr : r.Constrains .object)
      · cases h
        rcases Mapping.mem_insertAll hm with hm | hm
        · exact hf known hk field hm
        · exact hfields field hm
    · rename_i hk
      unfold tag at htag
      cases hkind : s.kind with
      | object known => exact (hk known hkind).elim
      | _ =>
        rw [hkind] at htag
        cases htag

/-- A schema of arrays may be given a well-formed schema for its items. -/
theorem WellFormed.of (h : s.WellFormed) (htag : s.tag = .array) {element : Schema} (helement : element.WellFormed) :
    (s.of element).WellFormed := by
  cases h with
  | intro rules ho hn _ _ =>
    refine .intro (fun r hr => ?_) ho hn nofun (fun element' h => ?_)
    · exact (htag ▸ rules r hr : r.Constrains .array)
    · cases h
      exact helement

end Schema

end Schemata
