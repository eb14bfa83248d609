import Schemata.Proofs.Mapping
import Schemata.Proofs.Schema.Acceptance
import Schemata.Schema.Describe

/-!
# Refinements in any order

A refinement changes one thing of a schema (`Refinement.targets`), or adds a rule after those already there. Refinements that change
different things can be made in either order, but for the order of the rules (`apply_comm`), and so any number of them in any order
(`foldl_apply_perm`). The order of the rules decides neither what a schema accepts nor, up to their names, how it is described.
-/

namespace Schemata

/-! ## Refinements -/

/-- A refinement of a schema. -/
inductive Refinement where
  | required (message : Option String)
  | optional
  | nullable (flag : Bool)
  | label (text : String)
  | rule (r : Rule)
  | oneOf (values : List Allowed) (message : Option String)
  | notOneOf (values : List Allowed) (message : Option String)
  | shape (fields : Mapping Schema)
  | of (element : Schema)

/-- What a refinement changes of a schema, rules aside. -/
inductive Target where
  | presence
  | nullability
  | label
  | oneOf
  | notOneOf
  | element
  | field (key : String)
deriving DecidableEq

namespace Refinement

/-- The schema that a refinement makes of a schema. -/
def apply (s : Schema) : Refinement → Schema
  | .required message => s.required message
  | .optional => s.optional
  | .nullable flag => s.nullable flag
  | .label text => s.label text
  | .rule r => s.rule r
  | .oneOf values message => s.oneOf values message
  | .notOneOf values message => s.notOneOf values message
  | .shape fields => s.shape fields
  | .of element => s.of element

/-- What a refinement changes; a rule is added to the others and changes none of them. -/
def targets : Refinement → List Target
  | .required _ | .optional => [.presence]
  | .nullable _ => [.nullability]
  | .label _ => [.label]
  | .rule _ => []
  | .oneOf _ _ => [.oneOf]
  | .notOneOf _ _ => [.notOneOf]
  | .shape fields => (Mapping.keys fields).map .field
  | .of _ => [.element]

/-- A refinement is one of schemas of a kind: only objects have fields, and only arrays have items. -/
def Fits (tag : Tag) : Refinement → Prop
  | .shape _ => tag = .object
  | .of _ => tag = .array
  | _ => True

/-- No refinement of schemas of a kind changes the kind. -/
theorem tag_apply {r : Refinement} {s : Schema} (h : r.Fits s.tag) : (r.apply s).tag = s.tag := by
  cases r with
  | shape fields =>
    have hs : s.tag = .object := h
    show (s.shape fields).tag = s.tag
    rw [hs]
    unfold Schema.shape
    split <;> rfl
  | of element => exact (show s.tag = .array from h).symm
  | _ => rfl

end Refinement

/-! ## The order of rules -/

/-- Two schemas are the same but for the order of their rules. -/
def Schema.SameButOrder (s t : Schema) : Prop :=
  ∃ rules, s.rules.Perm rules ∧ t = { s with rules }

namespace Schema.SameButOrder

variable {s t u : Schema}

theorem refl (s : Schema) : s.SameButOrder s :=
  ⟨s.rules, .refl _, by cases s; rfl⟩

theorem of_eq (h : s = t) : s.SameButOrder t :=
  h ▸ refl s

theorem symm (h : s.SameButOrder t) : t.SameButOrder s := by
  obtain ⟨rules, hperm, rfl⟩ := h
  exact ⟨s.rules, hperm.symm, by cases s; rfl⟩

theorem trans (h : s.SameButOrder t) (h' : t.SameButOrder u) : s.SameButOrder u := by
  obtain ⟨rules, hperm, rfl⟩ := h
  obtain ⟨more, hperm', rfl⟩ := h'
  exact ⟨more, hperm.trans hperm', rfl⟩

/-- A refinement keeps schemas the same. -/
theorem apply (h : s.SameButOrder t) (r : Refinement) : (r.apply s).SameButOrder (r.apply t) := by
  obtain ⟨rules, hperm, rfl⟩ := h
  cases r with
  | rule r => exact ⟨rules ++ [r], hperm.append_right [r], rfl⟩
  | shape fields =>
    obtain ⟨kind, isRequired, requiredMessage, isNullable, labelText, _, oneOfSet, notOneOfSet⟩ := s
    cases kind <;> exact ⟨rules, hperm, rfl⟩
  | _ => exact ⟨rules, hperm, rfl⟩

/-- So do refinements one after another. -/
theorem foldl_apply (h : s.SameButOrder t) (rs : List Refinement) :
    (rs.foldl Refinement.apply s).SameButOrder (rs.foldl Refinement.apply t) := by
  induction rs generalizing s t with
  | nil => exact h
  | cons r rest ih => exact ih (h.apply r)

end Schema.SameButOrder

/-! ## Refinements in either order -/

namespace Refinement

variable {a b : Refinement} {s : Schema}

/-- Two refinements that change different things. -/
def Apart (a b : Refinement) : Prop :=
  ∀ target ∈ a.targets, target ∉ b.targets

theorem Apart.symm (h : Apart a b) : Apart b a :=
  fun target hb ha => h target ha hb

/-- A rule can be added before another refinement or after it. -/
theorem apply_rule_comm (r : Rule) (b : Refinement) (s : Schema) :
    (b.apply (s.rule r)).SameButOrder ((b.apply s).rule r) := by
  cases b with
  | rule more =>
    refine ⟨s.rules ++ [more] ++ [r], ?_, rfl⟩
    show (s.rules ++ [r] ++ [more]).Perm _
    rw [List.append_assoc, List.append_assoc]
    exact (List.Perm.swap more r []).append_left s.rules
  | shape fields =>
    obtain ⟨kind, isRequired, requiredMessage, isNullable, labelText, rules, oneOfSet, notOneOfSet⟩ := s
    cases kind <;> exact .refl _
  | _ => exact .refl _

/-- The fields of an object can be added before a refinement that changes none of them, or after it. -/
theorem apply_shape_comm {fields : Mapping Schema} (object : s.tag = .object) (hb : b.Fits s.tag)
    (apart : Apart (.shape fields) b) : (b.apply (s.shape fields)).SameButOrder ((b.apply s).shape fields) := by
  obtain ⟨kind, isRequired, requiredMessage, isNullable, labelText, rules, oneOfSet, notOneOfSet⟩ := s
  cases kind with
  | object known =>
    cases b with
    | shape more =>
      have hkeys : (Mapping.keys fields).Disjoint (Mapping.keys more) := fun key hkey hmore =>
        apart (.field key) (List.mem_map_of_mem hkey) (List.mem_map_of_mem hmore)
      apply Schema.SameButOrder.of_eq
      show Schema.mk (.object (Mapping.insertAll (Mapping.insertAll known fields) more)) _ _ _ _ _ _ _ = _
      rw [Mapping.insertAll_comm known hkeys]
      rfl
    | of element => cases hb
    | _ => exact .refl _
  | _ => cases object

/-- Refinements that change different things can be made in either order. -/
theorem apply_comm (ha : a.Fits s.tag) (hb : b.Fits s.tag) (apart : Apart a b) :
    (b.apply (a.apply s)).SameButOrder (a.apply (b.apply s)) := by
  cases a with
  | rule r => exact apply_rule_comm r b s
  | shape fields => exact apply_shape_comm ha hb apart
  | _ =>
    cases b with
    | rule r => exact (apply_rule_comm r _ s).symm
    | shape fields => exact (apply_shape_comm hb ha apart.symm).symm
    | _ =>
      -- Each of the two sets a part of its own, unless both set the same one.
      first
        | exact .refl _
        | exact (apart _ List.mem_cons_self List.mem_cons_self).elim

/-- Refinements no two of which change the same thing can be made in any order. -/
theorem foldl_apply_perm {rs rs' : List Refinement} (h : rs.Perm rs') {s : Schema} (fits : ∀ r ∈ rs, r.Fits s.tag)
    (apart : rs.Pairwise Apart) : (rs.foldl apply s).SameButOrder (rs'.foldl apply s) := by
  induction h generalizing s with
  | nil => exact .refl _
  | cons r _ ih =>
    obtain ⟨hr, hrest⟩ := List.forall_mem_cons.mp fits
    exact ih (by rwa [tag_apply hr]) apart.of_cons
  | swap a b rest =>
    obtain ⟨hb, hrest⟩ := List.forall_mem_cons.mp fits
    have hba : Apart b a := List.rel_of_pairwise_cons apart List.mem_cons_self
    exact (apply_comm hb (hrest a List.mem_cons_self) hba).foldl_apply rest
  | trans h _ ih ih' =>
    have fits' := fun r hr => fits r (h.mem_iff.mpr hr)
    exact (ih fits apart).trans (ih' fits' ((h.pairwise_iff Apart.symm).mp apart))

end Refinement

/-! ## What the order of rules decides -/

namespace Schema.SameButOrder

variable {s t : Schema} {parent : Option Members}

/-- A value meets the rules of a schema in any order. -/
theorem fits (h : s.SameButOrder t) {v : Json} (hs : s.Fits v parent) : t.Fits v parent := by
  obtain ⟨rules, hperm, rfl⟩ := h
  obtain ⟨kind, nonempty, oneOf, notOneOf, hrules, fields, items⟩ := hs
  exact ⟨kind, nonempty, oneOf, notOneOf, fun r hr => hrules r (hperm.mem_iff.mpr hr), fields, items⟩

/-- The same values, and absences, are accepted. -/
theorem accepts (h : s.SameButOrder t) {v : Option Json} (hs : s.Accepts v parent) : t.Accepts v parent := by
  have hfits : ∀ {v}, s.Fits v parent → t.Fits v parent := h.fits
  obtain ⟨rules, -, rfl⟩ := h
  cases hs with
  | absent free => exact .absent free
  | nullable free nullable => exact .nullable free nullable
  | null free hs => exact .null free (hfits hs)
  | present present hs => exact .present present (hfits hs)

end Schema.SameButOrder

/-- A check succeeds on the same values, whatever object is around them. -/
theorem Schema.SameButOrder.violation?_eq_none_iff {s t : Schema} (h : s.SameButOrder t) (v : Option Json)
    (parent : Option Members) : s.violation? v parent = none ↔ t.violation? v parent = none :=
  (Place.violation?_eq_none_iff_accepts ⟨s, v, parent⟩).trans <|
    Iff.trans ⟨h.accepts, h.symm.accepts⟩ (Place.violation?_eq_none_iff_accepts ⟨t, v, parent⟩).symm

/-- Two descriptions are the same but for the order of the tests. -/
def DescribedAlike (d d' : Json) : Prop :=
  ∃ (members : Members) (tests tests' : List Json), d = .obj members ∧ Mapping.get? members "tests" = some (.arr tests) ∧
    tests.Perm tests' ∧ d' = .obj (Mapping.insert members "tests" (.arr tests'))

namespace Schema

/-- The descriptions of fields are those of their schemas, each under its key. -/
theorem describeFields_eq (fields : Mapping Schema) : describeFields fields = fields.mapValues describe := by
  induction fields with
  | nil => rfl
  | cons entry rest ih =>
    rw [describeFields, ih]
    rfl

/-- What a description says of the parts. -/
def describeParts : Kind Schema → List (String × Json)
  | .object fields => [("fields", .obj (describeFields fields))]
  | .array (some element) => [("element", describe element)]
  | _ => []

/-- What a description says before the tests. -/
def describedFirst (s : Schema) : List (String × Json) :=
  [("type", .str s.tag.name), ("required", .bool s.isRequired), ("nullable", .bool s.isNullable)]

/-- What a description says after the tests, where there is something to say. -/
def describedLast (s : Schema) : List (String × Json) :=
  entry? "label" .str s.labelText ++ entry? "oneOf" describeSet s.oneOfSet ++ entry? "notOneOf" describeSet s.notOneOfSet
    ++ describeParts s.kind

/-- The names of the rules, as a document. -/
def describedTests (rules : List Rule) : List Json :=
  rules.map fun r => .str r.name

/-- A description, part by part. -/
theorem describe_eq (s : Schema) :
    s.describe = .object (s.describedFirst ++ ("tests", .arr (describedTests s.rules)) :: s.describedLast) := by
  obtain ⟨kind, isRequired, requiredMessage, isNullable, labelText, rules, oneOfSet, notOneOfSet⟩ := s
  simp only [describedFirst, describedLast, describedTests, List.append_assoc, List.cons_append, List.nil_append]
  rcases kind with _ | _ | _ | _ | _ | _ | _ <;> simp only [describe, List.append_assoc, List.cons_append, List.nil_append] <;> rfl

/-- Nothing after the tests is called so. -/
theorem tests_notMem_describedLast (s : Schema) : "tests" ∉ Mapping.keys s.describedLast := by
  have hentry : ∀ {α : Type} {key : String} (toJson : α → Json) (part : Option α), "tests" ≠ key →
      "tests" ∉ Mapping.keys ( entry? key toJson part) := by
    intro α key toJson part h
    cases part <;> simp [ entry?, Mapping.keys, h]
  have hparts : "tests" ∉ Mapping.keys (describeParts s.kind) := by
    unfold describeParts
    split <;> simp [Mapping.keys]
  simp only [describedLast, Mapping.keys, List.map_append, List.mem_append, not_or]
  exact ⟨⟨⟨hentry _ _ (by decide), hentry _ _ (by decide)⟩, hentry _ _ (by decide)⟩, hparts⟩

/-- The rules of a schema are the tests of its description, and nothing else in it. -/
theorem describe_eq_insert (s : Schema) :
    s.describe = .obj (Mapping.insert (Mapping.insertAll (Mapping.ofList s.describedFirst) s.describedLast) "tests"
      (.arr (describedTests s.rules))) := by
  rw [describe_eq, ← Mapping.insertAll_insert _ s.tests_notMem_describedLast]
  simp only [Json.object, Mapping.ofList, Mapping.insertAll, List.foldl_append, List.foldl_cons]

/-- Schemas that are the same but for the order of their rules are described alike. -/
theorem SameButOrder.describedAlike {s t : Schema} (h : s.SameButOrder t) : DescribedAlike s.describe t.describe := by
  obtain ⟨rules, hperm, rfl⟩ := h
  refine ⟨_, describedTests s.rules, describedTests rules, s.describe_eq_insert, Mapping.get?_insert_self _ _ _, hperm.map _, ?_⟩
  rw [Mapping.insert_insert, describe_eq_insert]
  rfl

end Schema

end Schemata
