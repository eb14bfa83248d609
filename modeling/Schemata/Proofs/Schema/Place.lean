import Schemata.Schema.Check

/-!
# Places of a check

A check visits places: a schema with a value, or its absence, and the object around it. Directly below a place are the declared
fields of an object, and the items of an array (`Place.parts`). What is said of a place is what is said of it alone, and only when
that is nothing, what is said of the places below it (`Place.violation?_eq`).
-/

namespace Schemata

namespace Schema

/-- A schema of a kind, written out. -/
theorem eq_with_kind {s : Schema} {kind : Kind Schema} (h : s.kind = kind) : s = { s with kind := kind } := by
  cases s
  subst h
  rfl

/-- The schema of a field is smaller than the schema it belongs to. -/
theorem sizeOf_field_lt {s : Schema} {fields : Mapping Schema} {entry : String × Schema} (h : s.kind = .object fields)
    (hm : entry ∈ fields) : sizeOf entry.2 < sizeOf s := by
  obtain ⟨kind, isRequired, requiredMessage, isNullable, labelText, rules, oneOfSet, notOneOfSet⟩ := s
  obtain ⟨key, field⟩ := entry
  simp only at h
  subst h
  have hlt := List.sizeOf_lt_of_mem hm
  simp only [Schema.mk.sizeOf_spec, Kind.object.sizeOf_spec, Prod.mk.sizeOf_spec] at hlt ⊢
  omega

/-- The schema of the items is smaller than the schema it belongs to. -/
theorem sizeOf_element_lt {s element : Schema} (h : s.kind = .array (some element)) : sizeOf element < sizeOf s := by
  obtain ⟨kind, isRequired, requiredMessage, isNullable, labelText, rules, oneOfSet, notOneOfSet⟩ := s
  simp only at h
  subst h
  simp only [Schema.mk.sizeOf_spec, Kind.array.sizeOf_spec, Option.some.sizeOf_spec]
  omega

/-- Induction on schemas: a property that passes from the schemas of the fields, or of the items, to a schema holds of all. -/
theorem induct {motive : Schema → Prop}
    (step : ∀ s : Schema, (∀ fields, s.kind = .object fields → ∀ entry ∈ fields, motive entry.2) →
      (∀ element, s.kind = .array (some element) → motive element) → motive s) (s : Schema) : motive s :=
  step s
    (fun _ hk entry hm =>
      have := sizeOf_field_lt hk hm
      induct step entry.2)
    (fun element hk =>
      have := sizeOf_element_lt hk
      induct step element)
termination_by sizeOf s

/-- The violations of fields are those found field by field, each under its key. -/
theorem fieldViolations_eq (fields : Mapping Schema) (members : Members) :
    fieldViolations fields members =
      fields.filterMap fun (key, field) => (field.violation? (members.get? key) (some members)).map (·.under key) := by
  induction fields with
  | nil => rfl
  | cons entry rest ih =>
    obtain ⟨key, field⟩ := entry
    rw [fieldViolations, ih, List.filterMap_cons]
    cases h : field.violation? (members.get? key) (some members) <;> simp [h]

/-- Parts together say nothing exactly when there are none. -/
theorem together_eq_none_iff (code message : String) (label : Option String) (parts : List Violation) :
    together code message label parts = none ↔ parts = [] := by
  simp [together]

/-- What is said of parts together. -/
def partsMessage (s : Schema) : String :=
  match s.tag with
  | .object => "Object validation failed"
  | _ => "Array validation failed"

end Schema

/-- A step from a value to one of its parts. -/
inductive Step where
  | key (name : String)
  | index (i : Nat)
deriving DecidableEq

/-- The text of a step in a path. -/
def Step.text : Step → String
  | .key name => name
  | .index i => toString i

/-- What a check visits: a schema, a value or its absence, and the object around it. -/
structure Place where
  schema : Schema
  value : Option Json
  parent : Option Members

namespace Place

/-- What is wrong at a place, if anything is. -/
def violation? (p : Place) : Option Violation :=
  p.schema.violation? p.value p.parent

/-- What is wrong at a place itself, the places below it aside. -/
def ownViolation? (p : Place) : Option Violation :=
  p.schema.ownViolation? p.value p.parent

/-- The places directly below a place, in the order of the fields or of the items. -/
def parts (p : Place) : List (Step × Place) :=
  match p.schema.kind, p.value with
  | .object fields, some (.obj members) =>
    fields.map fun (key, field) => (.key key, ⟨field, Mapping.get? members key, some members⟩)
  | .array (some element), some (.arr items) =>
    items.zipIdx.map fun (item, i) => (.index i, ⟨element, some item, p.parent⟩)
  | _, _ => []

/-- What is wrong at the places below, each under its step. -/
def partViolations (p : Place) : List Violation :=
  p.parts.filterMap fun (step, part) => part.violation?.map (·.under step.text)

/-! ## Below a place -/

/-- A place is directly below another: a declared field of an object, missing or not, or an item of an array. -/
inductive HasPart (p : Place) : Step → Place → Prop where
  | field {fields : Mapping Schema} {members : Members} {key : String} {field : Schema}
      (kind : p.schema.kind = .object fields) (value : p.value = some (.obj members)) (declared : (key, field) ∈ fields) :
      HasPart p (.key key) ⟨field, Mapping.get? members key, some members⟩
  | item {element : Schema} {items : List Json} {i : Nat} {item : Json}
      (kind : p.schema.kind = .array (some element)) (value : p.value = some (.arr items)) (present : items[i]? = some item) :
      HasPart p (.index i) ⟨element, some item, p.parent⟩

/-- The places listed below a place are the places below it. -/
theorem mem_parts_iff (p : Place) (step : Step) (part : Place) : (step, part) ∈ p.parts ↔ p.HasPart step part := by
  constructor
  · intro h
    unfold parts at h
    split at h
    · rename_i fields members hk hv
      obtain ⟨⟨key, field⟩, hm, heq⟩ := List.mem_map.mp h
      cases heq
      exact .field hk hv hm
    · rename_i element items hk hv
      obtain ⟨⟨item, i⟩, hm, heq⟩ := List.mem_map.mp h
      cases heq
      exact .item hk hv (List.mem_zipIdx_iff_getElem?.mp hm)
    · cases h
  · rintro (⟨hk, hv, hm⟩ | ⟨hk, hv, hi⟩)
    · unfold parts
      rw [hk, hv]
      exact List.mem_map.mpr ⟨_, hm, rfl⟩
    · unfold parts
      rw [hk, hv]
      exact List.mem_map.mpr ⟨(_, _), List.mem_zipIdx_iff_getElem?.mpr hi, rfl⟩

/-- The schema of a place below is smaller. -/
theorem sizeOf_part_lt {p : Place} {entry : Step × Place} (h : entry ∈ p.parts) :
    sizeOf entry.2.schema < sizeOf p.schema := by
  obtain ⟨step, part⟩ := entry
  rcases (mem_parts_iff p step part).mp h with ⟨hk, -, hm⟩ | ⟨hk, -, -⟩
  · exact Schema.sizeOf_field_lt hk hm
  · exact Schema.sizeOf_element_lt hk

/-- Induction on places: a property that passes from the places below to the place above them holds of all. -/
theorem induct {motive : Place → Prop} (step : ∀ p : Place, (∀ entry ∈ p.parts, motive entry.2) → motive p) (p : Place) :
    motive p :=
  step p fun entry h =>
    have := sizeOf_part_lt h
    induct step entry.2
termination_by sizeOf p.schema

/-! ## What a check says -/

/-- A place is wrong by itself, or else where the places below it are wrong. -/
theorem violation?_eq (p : Place) :
    p.violation? =
      (p.ownViolation? <|> Schema.together p.schema.tag.name p.schema.partsMessage p.schema.labelText p.partViolations) := by
  unfold violation? ownViolation? Schema.violation?
  split
  · rename_i fields _ _ _ _ _ _ _ members hs hv
    have hparts : p.partViolations = Schema.fieldViolations fields members := by
      simp only [Schema.fieldViolations_eq, partViolations, parts, hs, hv, List.filterMap_map]
      rfl
    rw [hparts, hs]
    rfl
  · rename_i element _ _ _ _ _ _ _ items hs hv
    have hparts : p.partViolations =
        items.zipIdx.filterMap fun (item, i) => (element.violation? (some item) p.parent).map (·.under (toString i)) := by
      simp only [partViolations, parts, hs, hv, List.filterMap_map]
      rfl
    rw [hparts, hs]
    rfl
  · rename_i hobject harray
    have hparts : p.parts = [] := by
      unfold parts
      split
      · rename_i hk hv
        exact absurd hv (hobject _ _ _ _ _ _ _ _ _ (Schema.eq_with_kind hk))
      · rename_i hk hv
        exact absurd hv (harray _ _ _ _ _ _ _ _ _ (Schema.eq_with_kind hk))
      · rfl
    simp [partViolations, hparts, Schema.together]

/-- Nothing is wrong at a place exactly when nothing is wrong with it alone, and nothing at the places below. -/
theorem violation?_eq_none_iff (p : Place) :
    p.violation? = none ↔ p.ownViolation? = none ∧ ∀ entry ∈ p.parts, entry.2.violation? = none := by
  rw [violation?_eq, Option.orElse_eq_orElse, Option.orElse_eq_or, Option.or_eq_none_iff, Schema.together_eq_none_iff]
  simp [partViolations]

end Place

end Schemata
