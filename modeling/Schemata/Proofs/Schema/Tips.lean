import Schemata.Proofs.Schema.Localisation
import Schemata.Proofs.Schema.WellFormed

/-!
# The tips of a violation

The tips of a violation are the ends of its tree from left to right (`Violation.tips`). Each violation has one, and they are its leaves
(`Violation.leaves_eq_tips`). What a check by a well-formed schema finds ends in things wrong with single values: an object or an array
is never a tip only because parts of it are wrong (`Schema.WellFormed.code_not_mem_of_mem_tips`).
-/

namespace Schemata

namespace Violation

mutual

/-- The ends of a tree of violations, from left to right. -/
def tips (e : Violation) : List Violation :=
  match e with
  | ⟨code, message, field, params, []⟩ => [⟨code, message, field, params, []⟩]
  | ⟨_, _, _, _, first :: rest⟩ => tips first ++ tipsOfAll rest
termination_by structural e

/-- The ends of trees of violations, one tree after another. -/
def tipsOfAll (es : List Violation) : List Violation :=
  match es with
  | [] => []
  | e :: rest => tips e ++ tipsOfAll rest
termination_by structural es

end

theorem tipsOfAll_eq_flatMap (es : List Violation) : tipsOfAll es = es.flatMap tips := by
  induction es with
  | nil => rfl
  | cons e rest ih => rw [tipsOfAll, ih, List.flatMap_cons]

theorem tips_of_nested_eq_nil {e : Violation} (h : e.nested = []) : e.tips = [e] := by
  obtain ⟨code, message, field, params, nested⟩ := e
  subst h
  rw [tips]

/-- The tips of a violation with others below it are theirs. -/
theorem tips_of_nested_ne_nil {e : Violation} (h : e.nested ≠ []) : e.tips = e.nested.flatMap tips := by
  obtain ⟨code, message, field, params, nested⟩ := e
  cases nested with
  | nil => exact (h rfl).elim
  | cons first rest => rw [tips, tipsOfAll_eq_flatMap, List.flatMap_cons]

/-- The tips are what a list from the top down has left without the violations that have others below them. -/
theorem leaves_eq_tips (e : Violation) : e.leaves = e.tips := by
  induction e using induct with
  | step e ih =>
    by_cases h : e.nested = []
    · rw [leaves_of_nested_eq_nil h, tips_of_nested_eq_nil h]
    · rw [leaves_of_nested_ne_nil h, tips_of_nested_ne_nil h]
      exact List.flatMap_congr ih

/-- Every violation has a tip. -/
theorem tips_ne_nil (e : Violation) : e.tips ≠ [] := by
  induction e using induct with
  | step e ih =>
    cases h : e.nested with
    | nil => rw [tips_of_nested_eq_nil h]; exact List.cons_ne_nil _ _
    | cons first rest =>
      have hfirst : first ∈ e.nested := h ▸ List.mem_cons_self
      rw [tips_of_nested_ne_nil (List.ne_nil_of_mem hfirst)]
      exact fun hnil => ih first hfirst (List.flatMap_eq_nil_iff.mp hnil first hfirst)

/-- Nothing is below a tip. -/
theorem nested_of_mem_tips {e tip : Violation} (h : tip ∈ e.tips) : tip.nested = [] := by
  rw [← leaves_eq_tips] at h
  simpa [hasNested] using (List.mem_filter.mp h).2

/-- The codes of what an object or an array says of its parts together. -/
def aggregateCodes : List String :=
  ["object", "array"]

end Violation

/-- No rule for the values of a kind fails under the code of an aggregate. -/
theorem Rule.Constrains.code_not_mem {tag : Tag} {r : Rule} (h : r.Constrains tag) : r.code ∉ Violation.aggregateCodes := by
  induction r with
  | predicate name message test => exact h.elim
  | withMessage inner message ih => exact ih h
  | _ => simp [code, Violation.aggregateCodes]

namespace Place

/-- The parts of a place with a well-formed schema have well-formed schemas. -/
theorem HasPart.wellFormed {p part : Place} {step : Step} (hpart : p.HasPart step part) (h : p.schema.WellFormed) :
    part.schema.WellFormed := by
  cases h with
  | intro _ _ _ fields element =>
    rcases hpart with ⟨hk, -, hf⟩ | ⟨hk, -, -⟩
    · exact fields _ hk _ hf
    · exact element _ hk

/-- So has every place that a path leads to. -/
theorem Reaches.wellFormed {p q : Place} {path : List Step} (hreach : p.Reaches path q) (h : p.schema.WellFormed) :
    q.schema.WellFormed := by
  induction hreach with
  | here => exact h
  | step _ isPart _ ih => exact ih (isPart.wellFormed h)

/-- What is asked of a place with a well-formed schema does not fail under the code of an aggregate. -/
theorem code_not_mem_of_unmet {p : Place} (h : p.schema.WellFormed) {d : Demand} (hd : p.firstUnmet? = some d) :
    d.code ∉ Violation.aggregateCodes := by
  have hasked : d ∈ p.demands := List.mem_of_find?_eq_some hd
  have hrules : ∀ r, d = .rule r → r ∈ p.schema.rules := by
    rintro r rfl
    have hbody : Demand.rule r ∈ p.schema.bodyDemands → r ∈ p.schema.rules := by simp [Schema.bodyDemands]
    unfold demands at hasked
    split at hasked
    · simp at hasked
    · split at hasked
      · simp at hasked
      · exact hbody (by simpa using hasked)
    · exact hbody hasked
  cases d with
  | rule r => exact (h.rules r (hrules r rfl)).code_not_mem
  | _ => simp [Demand.code, Violation.aggregateCodes]

end Place

/-- No tip of what a check by a well-formed schema finds is an aggregate. -/
theorem Schema.WellFormed.code_not_mem_of_mem_tips {s : Schema} (h : s.WellFormed) {v : Option Json} {e : Violation}
    (hcheck : s.check v = some e) {tip : Violation} (htip : tip ∈ e.tips) : tip.code ∉ Violation.aggregateCodes := by
  have hv : (Place.mk s v none).violation? = some e := hcheck
  have hnotices := (Place.mk s v none).notices_eq_findings
  rw [hv, Option.toList_some, List.flatMap_singleton, Violation.notices, Violation.leaves_eq_tips] at hnotices
  have hnotice : tip.notice ∈ e.tips.map Violation.notice := List.mem_map_of_mem htip
  rw [hnotices] at hnotice
  obtain ⟨f, hf, hsays⟩ := List.mem_map.mp hnotice
  obtain ⟨hreach, hunmet⟩ := ((Place.found_findings _).mem_iff f).mp hf
  have hcode : f.demand.code = tip.code := congrArg (·.2.2) hsays
  rw [← hcode]
  exact Place.code_not_mem_of_unmet (hreach.wellFormed h) hunmet

end Schemata
