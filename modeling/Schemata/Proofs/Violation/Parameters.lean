import Mathlib.Data.List.Nodup
import Schemata.Proofs.Mapping
import Schemata.Proofs.Violation.Leaves

/-!
# Parameters of a violation

Of parameters with one key the first is looked up and the last is written into a document, so the two agree when the keys are distinct
(`Violation.member?_params`). The parameters of a rule's violation have distinct keys, at every depth, and none of them is that of a
label (`Rule.bare_violation`), so that a label can be added.
-/

namespace Schemata

/-- Of members under distinct keys, each is found in the object that they make. -/
theorem Json.member?_object {members : List (String × Json)} (h : (Mapping.keys members).Nodup) (key : String) :
    (Json.object members).member? key = Mapping.get? members key := by
  show Mapping.get? (Mapping.insertAll [] members) key = _
  rw [Mapping.get?_insertAll [] h, Mapping.get?_nil, Option.or_none]

namespace Violation

/-- The keys of the parameters, in order. -/
def paramKeys (e : Violation) : List String :=
  e.params.map Prod.fst

/-- The first parameter under a key, as in a mapping. -/
theorem param_eq_get? (e : Violation) (key : String) : e.param key = Mapping.get? e.params key := by
  unfold param
  induction e.params with
  | nil => rfl
  | cons entry rest ih =>
    obtain ⟨k, v⟩ := entry
    rw [List.lookup_cons, Mapping.get?_cons, ih]
    by_cases hk : k = key
    · simp [hk]
    · have hkey : (key == k) = false := by simpa using Ne.symm hk
      rw [hkey, if_neg hk]

/-- The parameters of a violation are a member of its document. -/
theorem member?_toJson_params (e : Violation) :
    e.toJson.member? "params" = some (.object (e.params.map fun (k, v) => (k, .str v))) := by
  obtain ⟨code, message, field, params, nested⟩ := e
  rw [toJson, Json.member?_object (by simp [Mapping.keys])]
  simp

/-- With distinct keys, a parameter reads in the document as it is looked up. -/
theorem member?_params {e : Violation} (h : e.paramKeys.Nodup) (key : String) :
    (e.toJson.member? "params").bind (·.member? key) = (e.param key).map .str := by
  have hkeys : Mapping.keys (e.params.map fun (k, v) => (k, Json.str v)) = e.paramKeys := by
    simp [Mapping.keys, paramKeys]
  rw [member?_toJson_params, Option.bind_some, Json.member?_object (hkeys ▸ h), param_eq_get?]
  induction e.params with
  | nil => rfl
  | cons entry rest ih =>
    obtain ⟨k, v⟩ := entry
    rw [List.map_cons, Mapping.get?_cons, Mapping.get?_cons, ih]
    split <;> rfl

/-! ## Labels -/

/-- A violation whose parameters have distinct keys, none of them that of a label. -/
structure Bare (e : Violation) : Prop where
  nodup : e.paramKeys.Nodup
  unlabelled : e.param "label" = none

/-- A violation without parameters is bare. -/
theorem bare_of_params_eq_nil {e : Violation} (h : e.params = []) : e.Bare :=
  ⟨by simp [paramKeys, h], by simp [param, h]⟩

/-- A label is added to a bare violation as a parameter. -/
theorem Bare.params_labelled {e : Violation} (h : e.Bare) (label : Option String) :
    (e.labelled label).params = e.params ++ (label.map ("label", ·)).toList := by
  cases label with
  | none => simp [labelled]
  | some text => simp [labelled, h.unlabelled, withParam]

/-- With a label, the keys are distinct still. -/
theorem Bare.nodup_labelled {e : Violation} (h : e.Bare) (label : Option String) : (e.labelled label).paramKeys.Nodup := by
  have hnew : "label" ∉ e.paramKeys := (Mapping.get?_eq_none_iff e.params "label").mp (e.param_eq_get? "label" ▸ h.unlabelled)
  rw [paramKeys, h.params_labelled, List.map_append]
  cases label with
  | none => simpa [paramKeys] using h.nodup
  | some text => simpa [paramKeys] using h.nodup.concat hnew

/-- The label is what is found as such. -/
theorem Bare.param_labelled {e : Violation} (h : e.Bare) (label : Option String) : (e.labelled label).param "label" = label := by
  have hnone : List.lookup "label" e.params = none := h.unlabelled
  rw [param, h.params_labelled, List.lookup_append, hnone]
  cases label <;> rfl

/-! ## Under keys -/

@[simp] theorem params_under (e : Violation) (key : String) : (e.under key).params = e.params := by
  cases e
  rfl

/-- A tree moved under a key has the violations of the tree, each moved under the key. -/
theorem flatten_under (e : Violation) (key : String) : (e.under key).flatten = e.flatten.map (·.under key) := by
  induction e using induct with
  | step e ih =>
    rw [flatten_eq, flatten_eq, nested_under, List.flatMap_map, List.map_cons, List.map_flatMap]
    exact congrArg _ (List.flatMap_congr ih)

end Violation

namespace Rule

/-- Every violation in the tree of a rule's violation is bare, however many messages the rule has. -/
theorem bare_violation (rule : Rule) (v : Json) : ∀ inner ∈ (rule.violation v).flatten, inner.Bare := by
  have hleaf : ∀ {e : Violation}, e.nested = [] → e.Bare → ∀ inner ∈ e.flatten, inner.Bare := by
    intro e hn he inner hm
    rw [Violation.flatten_eq, hn] at hm
    exact List.mem_singleton.mp hm ▸ he
  induction rule with
  | withMessage inner message ih =>
    -- The violation with the message has the parameters of the plain one, which is the first of its own tree.
    have hplain : (inner.violation v).Bare := ih _ (by rw [Violation.flatten_eq]; exact List.mem_cons_self)
    intro e hm
    rw [violation, Violation.flatten_eq] at hm
    rcases List.mem_cons.mp hm with rfl | hm
    · exact ⟨hplain.nodup, hplain.unlabelled⟩
    · exact ih e (by simpa using hm)
  | predicate name message test => exact hleaf rfl (Violation.bare_of_params_eq_nil rfl)
  | lowercase => exact hleaf rfl (Violation.bare_of_params_eq_nil rfl)
  | uppercase => exact hleaf rfl (Violation.bare_of_params_eq_nil rfl)
  | _ =>
    refine hleaf rfl ⟨?_, rfl⟩
    simp [Violation.paramKeys, violation, numberViolation, lengthViolation, Violation.invalidFormat, Violation.withParam, Violation.of]

end Rule

end Schemata
