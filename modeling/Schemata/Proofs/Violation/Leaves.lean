import Mathlib.Data.List.Basic
import Schemata.Rule

/-!
# Leaves of a violation

The leaves of a violation are the violations in its tree with none below them: what a report shows. Moving a tree under a key moves
its leaves and keeps their order (`leaves_under`), and the tree of a rule has one leaf, with the code of the rule and its plain
message (`notices_violation`).
-/

namespace Schemata

namespace Violation

/-- A violation below another is smaller. -/
theorem sizeOf_nested_lt {e inner : Violation} (h : inner ∈ e.nested) : sizeOf inner < sizeOf e := by
  obtain ⟨code, message, field, params, nested⟩ := e
  have hlt := List.sizeOf_lt_of_mem h
  simp only [Violation.mk.sizeOf_spec] at hlt ⊢
  omega

/-- Induction on violations: a property that passes from the violations below one to that one holds of all. -/
theorem induct {motive : Violation → Prop} (step : ∀ e : Violation, (∀ inner ∈ e.nested, motive inner) → motive e)
    (e : Violation) : motive e :=
  step e fun inner h =>
    have := sizeOf_nested_lt h
    induct step inner
termination_by sizeOf e

/-- The violations of a tree with none below them, from the top down. -/
def leaves (e : Violation) : List Violation :=
  e.flatten.filter fun e => !e.hasNested

/-- A violation with none below it is its own leaf. -/
theorem leaves_of_nested_eq_nil {e : Violation} (h : e.nested = []) : e.leaves = [e] := by
  simp [leaves, flatten_eq, hasNested, h]

/-- The leaves of a violation with others below it are theirs. -/
theorem leaves_of_nested_ne_nil {e : Violation} (h : e.nested ≠ []) : e.leaves = e.nested.flatMap leaves := by
  have hn : (!e.hasNested) = false := by simp [hasNested, h]
  rw [leaves, flatten_eq, List.filter_cons, hn, List.filter_flatMap]
  rfl

@[simp] theorem code_under (e : Violation) (key : String) : (e.under key).code = e.code := by
  cases e
  rfl

@[simp] theorem message_under (e : Violation) (key : String) : (e.under key).message = e.message := by
  cases e
  rfl

@[simp] theorem field_under (e : Violation) (key : String) : (e.under key).field = some (pathUnder key e.field) := by
  cases e
  rfl

@[simp] theorem nested_under (e : Violation) (key : String) : (e.under key).nested = e.nested.map (·.under key) := by
  cases e
  simp [under]

/-- The leaves of a tree moved under a key are the leaves of the tree, each moved under the key. -/
theorem leaves_under (e : Violation) (key : String) : (e.under key).leaves = e.leaves.map (·.under key) := by
  induction e using induct with
  | step e ih =>
    by_cases h : e.nested = []
    · rw [leaves_of_nested_eq_nil h, leaves_of_nested_eq_nil (by simp [h])]
      rfl
    · rw [leaves_of_nested_ne_nil h, leaves_of_nested_ne_nil (by simp [h]), nested_under, List.flatMap_map, List.map_flatMap]
      exact List.flatMap_congr ih

/-! ## Paths and codes -/

/-- Where a violation is, and its code. -/
def summary (e : Violation) : Option String × String :=
  (e.field, e.code)

/-- Where the leaves of a violation are, and their codes. -/
def summaries (e : Violation) : List (Option String × String) :=
  e.leaves.map summary

/-- A label adds a parameter at most. -/
theorem labelled_eq (e : Violation) (label : Option String) : ∃ params, e.labelled label = { e with params } := by
  unfold labelled
  split
  · split
    · exact ⟨_, rfl⟩
    · exact ⟨e.params, by cases e; rfl⟩
  · exact ⟨e.params, by cases e; rfl⟩

@[simp] theorem code_labelled (e : Violation) (label : Option String) : (e.labelled label).code = e.code := by
  obtain ⟨params, h⟩ := labelled_eq e label
  rw [h]

/-! ## What is said -/

/-- What a violation says: where, in which words, and under which code. -/
def notice (e : Violation) : Option String × String × String :=
  (e.field, e.message, e.code)

/-- What the leaves of a violation say. -/
def notices (e : Violation) : List (Option String × String × String) :=
  e.leaves.map notice

/-- What is said, the words left out. -/
theorem summaries_eq_map_notices (e : Violation) : e.summaries = e.notices.map fun (field, _, code) => (field, code) := by
  simp [summaries, notices, summary, notice, Function.comp_def]

/-- A violation of a code and a message alone, with parameters or without, says itself what is wrong. -/
theorem notices_of_nested_eq_nil {e : Violation} (hn : e.nested = []) (hf : e.field = none) :
    e.notices = [(none, e.message, e.code)] := by
  simp [notices, leaves_of_nested_eq_nil hn, notice, hf]

/-- A label does not change what is said. -/
theorem notices_labelled (e : Violation) (label : Option String) : (e.labelled label).notices = e.notices := by
  obtain ⟨params, he⟩ := labelled_eq e label
  have hn : (e.labelled label).nested = e.nested := by rw [he]
  by_cases h : e.nested = []
  · rw [notices, notices, leaves_of_nested_eq_nil h, leaves_of_nested_eq_nil (hn.trans h), he]
    rfl
  · rw [notices, notices, leaves_of_nested_ne_nil h, leaves_of_nested_ne_nil (by rw [hn]; exact h), hn]

end Violation

namespace Rule

/-- The code under which a rule is broken; a message does not change it. -/
def code : Rule → String
  | .min _ => "min"
  | .max _ => "max"
  | .moreThan _ => "more_than"
  | .lessThan _ => "less_than"
  | .integer => "integer"
  | .minLength _ => "min_length"
  | .maxLength _ => "max_length"
  | .exactLength _ => "exact_length"
  | .minSize _ => "min_size"
  | .maxSize _ => "max_size"
  | .exactSize _ => "exact_size"
  | .matching _ => "matches"
  | .email => "invalid_format"
  | .url => "invalid_format"
  | .lowercase => "lowercase"
  | .uppercase => "uppercase"
  | .predicate name _ _ => name
  | .withMessage inner _ => inner.code

/-- A rule is broken under its code. -/
theorem code_violation (rule : Rule) (v : Json) : (rule.violation v).code = rule.code := by
  induction rule with
  | withMessage inner message ih => exact ih
  | _ => rfl

/-- The message of its own that a rule has; of several the last one given. -/
def declared? : Rule → Option String
  | .withMessage _ message => some message
  | _ => none

/-- What a rule says of a value under all messages of its own. -/
def plain (rule : Rule) (v : Json) : String :=
  match rule with
  | .withMessage inner _ => inner.plain v
  | rule => (rule.violation v).message

/-- However many messages a rule has, its violation has one leaf, at the value itself, under the code of the rule, and that leaf says
what the rule says under all of them. -/
theorem notices_violation (rule : Rule) (v : Json) : (rule.violation v).notices = [(none, rule.plain v, rule.code)] := by
  induction rule with
  | withMessage inner message ih =>
    have h : ((Rule.withMessage inner message).violation v).leaves = (inner.violation v).leaves := by
      rw [Violation.leaves_of_nested_ne_nil (by simp [violation])]
      simp [violation]
    rw [Violation.notices, h]
    exact ih
  | _ => exact Violation.notices_of_nested_eq_nil rfl rfl

end Rule

end Schemata
