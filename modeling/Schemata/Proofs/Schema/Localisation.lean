import Schemata.Proofs.Schema.Demands

/-!
# Where a check fails

A path leads from a place to another through places that meet all demands made of them (`Place.Reaches`), and a position fails where a
path ends at a place that does not (`Place.FailsAt`). What a check says, leaf by leaf, is what each failing place says, moved along the
path to it (`Place.leaves_eq_failing`): its first unmet demand (`Place.notices_eq_findings`). So the leaves of a violation are the
failing positions in depth-first order, each with the code of the first demand that is not met (`Schema.leaves_eq_failing_positions`).
-/

namespace Schemata

/-! ## The checks of a place itself -/

/-- The code of the first demand of a list that is not met. -/
inductive FirstFailing : List (Prop × String) → String → Prop where
  | here {demand : Prop} {code : String} {rest : List (Prop × String)} (fails : ¬demand) :
      FirstFailing ((demand, code) :: rest) code
  | later {demand : Prop} {code first : String} {rest : List (Prop × String)} (met : demand) (tail : FirstFailing rest first) :
      FirstFailing ((demand, code) :: rest) first

/-- Every demand of a list is met. -/
def AllMet (checks : List (Prop × String)) : Prop :=
  ∀ check ∈ checks, check.1

namespace Place

/-- What is asked of a place itself, in order, with the code of each demand. -/
def checks (p : Place) : List (Prop × String) :=
  p.demands.map fun d => (d.isMet p = true, d.code)

/-- A path leads from a place to another: every place it passes through is there and meets its own demands. -/
inductive Reaches : Place → List Step → Place → Prop where
  | here (p : Place) : Reaches p [] p
  | step {p part q : Place} {step : Step} {path : List Step} (met : AllMet p.checks) (isPart : p.HasPart step part)
      (rest : Reaches part path q) : Reaches p (step :: path) q

/-- A path leads to a place that fails, first of its demands, the one with a code. -/
def FailsAt (p : Place) (path : List Step) (code : String) : Prop :=
  ∃ q, p.Reaches path q ∧ FirstFailing q.checks code

end Place

/-- The text of a path; where it leads nowhere there is none. -/
def pathText : List Step → Option String
  | [] => none
  | path => some (".".intercalate (path.map Step.text))

/-- Where something at no path of its own comes to stand when it moves along a path. -/
def fieldAt (path : List Step) : Option String :=
  path.foldr (fun step field => some (Violation.pathUnder step.text field)) none

namespace Violation

/-- Move a violation, and all below it, along a path: under its last step first. -/
def along (e : Violation) (path : List Step) : Violation :=
  path.foldr (fun step e => e.under step.text) e

@[simp] theorem code_along (e : Violation) (path : List Step) : (e.along path).code = e.code := by
  induction path with
  | nil => rfl
  | cons step path ih => exact (code_under _ _).trans ih

@[simp] theorem message_along (e : Violation) (path : List Step) : (e.along path).message = e.message := by
  induction path with
  | nil => rfl
  | cons step path ih => exact (message_under _ _).trans ih

/-- A violation at no path comes to stand where the path leads. -/
theorem field_along {e : Violation} (h : e.field = none) (path : List Step) : (e.along path).field = fieldAt path := by
  induction path with
  | nil => exact h
  | cons step path ih => exact (field_under _ _).trans (congrArg (fun field => some (pathUnder step.text field)) ih)

end Violation

/-- A field comes before those with greater keys, an item before those with greater indices. -/
def Step.Before : Step → Step → Prop
  | .key a, .key b => a < b
  | .index i, .index j => i < j
  | _, _ => False

/-- Something holds of the fields of every object schema in a schema. -/
inductive Schema.AllFields (P : Mapping Schema → Prop) : Schema → Prop where
  | intro {s : Schema} (here : ∀ fields, s.kind = .object fields → P fields)
      (fields : ∀ fields, s.kind = .object fields → ∀ entry ∈ fields, AllFields P entry.2)
      (items : ∀ element, s.kind = .array (some element) → AllFields P element) : AllFields P s

/-! ## The first check that fails -/

/-- The first check that fails has the code of the first demand that is not met. -/
theorem firstFailing_map_iff (p : Place) (demands : List Demand) (code : String) :
    FirstFailing (demands.map fun d => (d.isMet p = true, d.code)) code ↔
      ∃ d, demands.find? (fun d => !d.isMet p) = some d ∧ d.code = code := by
  induction demands with
  | nil =>
    constructor
    · exact nofun
    · rintro ⟨d, hd, -⟩
      cases hd
  | cons d rest ih =>
    rw [List.map_cons]
    cases hmet : d.isMet p with
    | true =>
      rw [List.find?_cons_of_neg (by simp [hmet]), ← ih]
      constructor
      · intro h
        cases h with
        | here fails => exact (fails rfl).elim
        | later _ tail => exact tail
      · exact .later rfl
    | false =>
      rw [List.find?_cons_of_pos (by simp [hmet])]
      constructor
      · intro h
        cases h with
        | here _ => exact ⟨d, rfl, rfl⟩
        | later met _ => cases met
      · rintro ⟨_, ⟨⟩, rfl⟩
        exact .here nofun

namespace Place

/-- All checks are passed where no demand is unmet, and so where nothing is wrong at the place itself. -/
theorem allMet_checks_iff (p : Place) : AllMet p.checks ↔ p.ownViolation? = none := by
  rw [ownViolation?_eq_none_iff, firstUnmet?, List.find?_eq_none]
  simp [AllMet, checks]

/-- A check fails first under the code of the first unmet demand. -/
theorem firstFailing_checks_iff (p : Place) (code : String) :
    FirstFailing p.checks code ↔ ∃ d, p.firstUnmet? = some d ∧ d.code = code :=
  firstFailing_map_iff p p.demands code

end Place

/-! ## The failing positions, listed -/

/-- The items of a list come in the order of their indices. -/
theorem pairwise_zipIdx {α : Type} (xs : List α) : xs.zipIdx.Pairwise fun a b => a.2 < b.2 := by
  have hlt : (xs.zipIdx.map Prod.snd).Pairwise (· < ·) := by
    rw [List.zipIdx_map_snd]
    exact List.pairwise_lt_range'
  exact List.pairwise_map.mp hlt

namespace Place

/-- The places that fail at and below a place, in depth-first order, with the paths to them. -/
def failing (p : Place) : List (List Step × Place) :=
  match p.ownViolation? with
  | some _ => [([], p)]
  | none => p.parts.attach.flatMap fun entry => (failing entry.1.2).map fun (path, q) => (entry.1.1 :: path, q)
termination_by sizeOf p.schema
decreasing_by exact sizeOf_part_lt entry.2

/-- A place that fails is the only failing one at and below it. -/
theorem failing_of_some {p : Place} {e : Violation} (h : p.ownViolation? = some e) : p.failing = [([], p)] := by
  rw [failing, h]

/-- The failing places at and below a place that does not fail are those of the places below it. -/
theorem failing_of_none {p : Place} (h : p.ownViolation? = none) :
    p.failing = p.parts.flatMap fun entry => entry.2.failing.map fun (path, q) => (entry.1 :: path, q) := by
  rw [failing]
  simp only [h]
  conv_rhs => rw [← List.attach_map_subtype_val p.parts, List.flatMap_map]

/-- The places listed are those that a path leads to and where something is wrong with the place itself. -/
theorem mem_failing_iff (p : Place) (path : List Step) (q : Place) :
    (path, q) ∈ p.failing ↔ p.Reaches path q ∧ q.ownViolation?.isSome = true := by
  induction p using induct generalizing path with
  | step p ih =>
    cases hown : p.ownViolation? with
    | some e =>
      rw [failing_of_some hown, List.mem_singleton, Prod.mk.injEq]
      constructor
      · rintro ⟨rfl, rfl⟩
        exact ⟨.here q, by rw [hown]; rfl⟩
      · rintro ⟨hreach, -⟩
        cases hreach with
        | here => exact ⟨rfl, rfl⟩
        | step met _ _ =>
          rw [allMet_checks_iff, hown] at met
          cases met
    | none =>
      have hmet := p.allMet_checks_iff.mpr hown
      rw [failing_of_none hown]
      constructor
      · intro h
        obtain ⟨⟨step, part⟩, hpart, h⟩ := List.mem_flatMap.mp h
        obtain ⟨⟨rest, q'⟩, hrest, heq⟩ := List.mem_map.mp h
        cases heq
        obtain ⟨hreach, hwrong⟩ := (ih _ hpart rest).mp hrest
        exact ⟨.step hmet ((mem_parts_iff p step part).mp hpart) hreach, hwrong⟩
      · rintro ⟨hreach, hwrong⟩
        cases hreach with
        | here =>
          rw [hown] at hwrong
          cases hwrong
        | @step _ part _ step rest _ isPart hrest =>
          have hpart := (mem_parts_iff p step part).mpr isPart
          exact List.mem_flatMap.mpr ⟨(step, part), hpart,
            List.mem_map.mpr ⟨(rest, q), (ih _ hpart rest).mpr ⟨hrest, hwrong⟩, rfl⟩⟩

/-- What holds of the fields of every object schema in a schema holds in the places below. -/
theorem allFields_part {P : Mapping Schema → Prop} {p part : Place} {step : Step} (h : p.schema.AllFields P)
    (hp : p.HasPart step part) : part.schema.AllFields P := by
  obtain ⟨_, fields, items⟩ := h
  rcases hp with ⟨hk, -, hf⟩ | ⟨hk, -, -⟩
  · exact fields _ hk _ hf
  · exact items _ hk

/-- The places below a place come in the order of their steps. -/
theorem pairwise_parts {p : Place} (h : p.schema.AllFields Mapping.Ordered) :
    p.parts.Pairwise fun a b => a.1.Before b.1 := by
  obtain ⟨here, _, _⟩ := h
  unfold parts
  split
  · rename_i fields members hk hv
    rw [List.pairwise_map]
    exact here fields hk
  · rename_i element items hk hv
    rw [List.pairwise_map]
    exact pairwise_zipIdx items
  · exact List.Pairwise.nil

/-- The failing places are listed in depth-first order. -/
theorem pairwise_failing (p : Place) (h : p.schema.AllFields Mapping.Ordered) :
    p.failing.Pairwise fun a b => List.Lex Step.Before a.1 b.1 := by
  induction p using induct with
  | step p ih =>
    cases hown : p.ownViolation? with
    | some e =>
      rw [failing_of_some hown]
      exact List.pairwise_singleton _ _
    | none =>
      rw [failing_of_none hown, List.pairwise_flatMap]
      refine ⟨fun entry hm => ?_, (pairwise_parts h).imp ?_⟩
      · rw [List.pairwise_map]
        exact (ih entry hm (allFields_part h ((mem_parts_iff p _ _).mp hm))).imp .cons
      · intro a b hab x hx y hy
        obtain ⟨x, -, rfl⟩ := List.mem_map.mp hx
        obtain ⟨y, -, rfl⟩ := List.mem_map.mp hy
        exact .rel hab

end Place

/-! ## The failing places, with what they do not meet -/

/-- A failing place: the path to it, and the first demand that it does not meet. -/
structure Finding where
  path : List Step
  place : Place
  demand : Demand

namespace Finding

/-- The message that was declared for the demand. -/
def declared? (f : Finding) : Option String :=
  f.demand.declared? f.place

/-- What the demand says when no message is declared. -/
def plain (f : Finding) : String :=
  f.demand.plain f.place

/-- What is said of the place. -/
def said (f : Finding) : String :=
  f.demand.said f.place

end Finding

namespace Place

/-- A list of all failing places at and below a place: those that a path leads to and that do not meet some demand, in depth-first
order. -/
structure Found (p : Place) (findings : List Finding) : Prop where
  mem_iff : ∀ f, f ∈ findings ↔ p.Reaches f.path f.place ∧ f.place.firstUnmet? = some f.demand
  ordered : p.schema.AllFields Mapping.Ordered → findings.Pairwise fun f g => List.Lex Step.Before f.path g.path

/-- The failing places at and below a place, with what they do not meet. -/
def findings (p : Place) : List Finding :=
  p.failing.filterMap fun (path, q) => q.firstUnmet?.map fun d => ⟨path, q, d⟩

theorem found_findings (p : Place) : p.Found p.findings where
  mem_iff f := by
    rw [findings, List.mem_filterMap]
    constructor
    · rintro ⟨⟨path, q⟩, hq, heq⟩
      obtain ⟨d, hd, rfl⟩ := Option.map_eq_some_iff.mp heq
      exact ⟨((mem_failing_iff p path q).mp hq).1, hd⟩
    · rintro ⟨hreach, hunmet⟩
      obtain ⟨e, hown, -⟩ := ownViolation?_of_unmet hunmet
      have hfailing : (f.path, f.place) ∈ p.failing := (mem_failing_iff p f.path f.place).mpr ⟨hreach, by rw [hown]; rfl⟩
      exact ⟨(f.path, f.place), hfailing, by simp only [hunmet, Option.map_some]⟩
  ordered h := by
    rw [findings, List.pairwise_filterMap]
    refine (pairwise_failing p h).imp ?_
    rintro ⟨path, q⟩ ⟨path', q'⟩ hlex f hf g hg
    obtain ⟨-, -, rfl⟩ := Option.map_eq_some_iff.mp hf
    obtain ⟨-, -, rfl⟩ := Option.map_eq_some_iff.mp hg
    exact hlex

/-- The failing positions at and below a place, in depth-first order, with their codes. -/
def failures (p : Place) : List (List Step × String) :=
  p.findings.map fun f => (f.path, f.demand.code)

/-- The positions listed are those that fail. -/
theorem mem_failures_iff (p : Place) (path : List Step) (code : String) :
    (path, code) ∈ p.failures ↔ p.FailsAt path code := by
  rw [failures, List.mem_map]
  constructor
  · rintro ⟨f, hf, heq⟩
    cases heq
    obtain ⟨hreach, hunmet⟩ := (p.found_findings.mem_iff f).mp hf
    exact ⟨f.place, hreach, (f.place.firstFailing_checks_iff _).mpr ⟨f.demand, hunmet, rfl⟩⟩
  · rintro ⟨q, hreach, hfirst⟩
    obtain ⟨d, hunmet, rfl⟩ := (q.firstFailing_checks_iff code).mp hfirst
    exact ⟨⟨path, q, d⟩, (p.found_findings.mem_iff _).mpr ⟨hreach, hunmet⟩, rfl⟩

/-- The failing positions are listed in depth-first order. -/
theorem pairwise_failures (p : Place) (h : p.schema.AllFields Mapping.Ordered) :
    p.failures.Pairwise fun a b => List.Lex Step.Before a.1 b.1 :=
  List.pairwise_map.mpr (p.found_findings.ordered h)

/-- Nothing is wrong at a place exactly where nothing fails at or below it. -/
theorem violation?_eq_none_iff_failures (p : Place) : p.violation? = none ↔ p.failures = [] := by
  have hfailing : p.violation? = none ↔ p.failing = [] := by
    induction p using induct with
    | step p ih =>
      cases hown : p.ownViolation? with
      | some e =>
        rw [violation?_eq_none_iff, hown, failing_of_some hown]
        simp
      | none =>
        rw [violation?_eq_none_iff, failing_of_none hown, List.flatMap_eq_nil_iff]
        simp only [hown, true_and, List.map_eq_nil_iff]
        exact forall₂_congr ih
  -- Every failing place has something that it does not meet.
  have hunmet : ∀ entry ∈ p.failing, entry.2.firstUnmet? ≠ none := by
    rintro ⟨path, q⟩ hm hmet
    have hwrong := ((mem_failing_iff p path q).mp hm).2
    rw [ownViolation?_of_met hmet] at hwrong
    cases hwrong
  rw [hfailing, failures, List.map_eq_nil_iff, findings, List.filterMap_eq_nil_iff]
  constructor
  · intro h entry hm
    rw [h] at hm
    cases hm
  · intro h
    refine List.eq_nil_iff_forall_not_mem.mpr fun entry hm => hunmet entry hm (Option.map_eq_none_iff.mp (h entry hm))

/-! ## What a check says, leaf by leaf -/

/-- What is wrong at the places below, leaf by leaf, is told place by place, each leaf under the step to its place. -/
theorem leaves_partViolations (p : Place) :
    p.partViolations.flatMap Violation.leaves =
      p.parts.flatMap fun entry => (entry.2.violation?.toList.flatMap Violation.leaves).map (·.under entry.1.text) := by
  rw [partViolations, List.filterMap_eq_flatMap_toList, List.flatMap_assoc]
  apply List.flatMap_congr
  rintro ⟨step, part⟩ -
  show (part.violation?.map (·.under step.text)).toList.flatMap Violation.leaves = _
  cases part.violation? with
  | none => rfl
  | some e => simp [Violation.leaves_under]

/-- The leaves of what parts say together are theirs. -/
theorem leaves_together (code message : String) (label : Option String) (parts : List Violation) :
    (Schema.together code message label parts).toList.flatMap Violation.leaves = parts.flatMap Violation.leaves := by
  unfold Schema.together
  split
  · rename_i h
    simp [List.isEmpty_iff.mp h]
  · rename_i h
    obtain ⟨params, he⟩ := Violation.labelled_eq ((Violation.of code message).withNested parts) label
    have hn : (((Violation.of code message).withNested parts).labelled label).nested = parts := by rw [he]; rfl
    rw [Option.toList_some, List.flatMap_singleton, Violation.leaves_of_nested_ne_nil (by rw [hn]; simpa using h), hn]

/-- The leaves of what is wrong at a place are those of the failing places, each moved along the path to its place. -/
theorem leaves_eq_failing (p : Place) :
    p.violation?.toList.flatMap Violation.leaves =
      p.failing.flatMap fun (path, q) => (q.ownViolation?.toList.flatMap Violation.leaves).map (·.along path) := by
  induction p using induct with
  | step p ih =>
    rw [violation?_eq]
    cases hown : p.ownViolation? with
    | some e => simp [failing_of_some hown, hown, Violation.along]
    | none =>
      simp only [Option.orElse_eq_orElse, Option.orElse_eq_or, Option.none_or]
      rw [failing_of_none hown, leaves_together, leaves_partViolations, List.flatMap_assoc]
      apply List.flatMap_congr
      intro entry hm
      rw [ih entry hm, List.map_flatMap, List.flatMap_map]
      apply List.flatMap_congr
      rintro ⟨path, q⟩ -
      rw [List.map_map]
      rfl

/-- Where the leaves of what is wrong at a place are, and their codes. -/
def summaries (p : Place) : List (Option String × String) :=
  p.violation?.toList.flatMap Violation.summaries

/-- A step to a failing position of a schema without empty keys has a text. -/
theorem text_ne_empty {p part : Place} {step : Step} (h : p.schema.AllFields fun fields => "" ∉ fields.keys)
    (hp : p.HasPart step part) : step.text ≠ "" := by
  obtain ⟨here, _, _⟩ := h
  rcases hp with ⟨hk, -, hf⟩ | ⟨-, -, -⟩
  · intro he
    exact here _ hk (List.mem_map.mpr ⟨_, hf, he⟩)
  · exact Nat.repr_ne_empty

/-- What moves along a path without empty keys comes to stand at the text of the path. -/
theorem fieldAt_eq_pathText {p q : Place} {path : List Step} (h : p.schema.AllFields fun fields => "" ∉ fields.keys)
    (hr : p.Reaches path q) : fieldAt path = pathText path := by
  induction hr with
  | here => rfl
  | @step p part q step path _ isPart rest ih =>
    have hpart := allFields_part h isPart
    have hgrows : fieldAt (step :: path) = some (Violation.pathUnder step.text (fieldAt path)) := rfl
    rw [hgrows, ih hpart]
    cases rest with
    | here => simp [Violation.pathUnder, pathText]
    | @step _ _ _ next tail _ isNext _ =>
      have hnext := text_ne_empty hpart isNext
      have hne : ".".intercalate (next.text :: tail.map Step.text) ≠ "" := by
        cases tail with
        | nil => simpa using hnext
        | cons => simp [String.intercalate_cons_cons]
      simp only [Violation.pathUnder, pathText, List.map_cons, String.intercalate_cons_cons]
      rw [if_neg hne]

/-- The leaves of a check say of each failing place, at its path, what its first unmet demand says. -/
theorem notices_eq_findings (p : Place) :
    p.violation?.toList.flatMap Violation.notices =
      p.findings.map fun f => (fieldAt f.path, f.said, f.demand.code) := by
  have hnotices : p.violation?.toList.flatMap Violation.notices =
      (p.violation?.toList.flatMap Violation.leaves).map Violation.notice := by
    rw [List.map_flatMap]
    rfl
  rw [hnotices, leaves_eq_failing, findings, List.map_flatMap, List.map_filterMap, List.filterMap_eq_flatMap_toList]
  apply List.flatMap_congr
  rintro ⟨path, q⟩ -
  cases hunmet : q.firstUnmet? with
  | none => simp [ownViolation?_of_met hunmet, hunmet]
  | some d =>
    obtain ⟨e, hown, hsays⟩ := ownViolation?_of_unmet hunmet
    -- The one leaf of the place itself stands at no path; it is moved along the path to the place.
    obtain ⟨leaf, hleaves, hleaf⟩ := List.map_eq_singleton_iff.mp hsays.notices_eq
    obtain ⟨hfield, hsaid⟩ := Prod.mk.inj hleaf
    have hmoved : (leaf.along path).notice = (fieldAt path, d.said q, d.code) := by
      rw [Violation.notice, Violation.field_along hfield, Violation.message_along, Violation.code_along, hsaid]
    simp only [hown, hunmet, Option.toList_some, List.flatMap_singleton, hleaves, List.map_singleton, hmoved, Option.map_some]
    rfl

/-- The leaves of what is wrong at a place are the failing positions at and below it, in their order, each where its path leads. -/
theorem summaries_eq_map_fieldAt (p : Place) : p.summaries = p.failures.map fun (path, code) => (fieldAt path, code) := by
  rw [summaries, List.flatMap_congr fun e _ => Violation.summaries_eq_map_notices e, ← List.map_flatMap, notices_eq_findings,
    failures, List.map_map, List.map_map]
  rfl

/-- Where no key is empty, the leaves stand at the texts of the paths. -/
theorem summaries_eq_failures (p : Place) (h : p.schema.AllFields fun fields => "" ∉ fields.keys) :
    p.summaries = p.failures.map fun (path, code) => (pathText path, code) := by
  rw [summaries_eq_map_fieldAt]
  apply List.map_congr_left
  rintro ⟨path, code⟩ hm
  obtain ⟨q, hreach, -⟩ := (mem_failures_iff p path code).mp hm
  exact congrArg (·, code) (fieldAt_eq_pathText h hreach)

/-- What a check tells, words aside, is told by the positions that fail. -/
theorem map_summaries_violation? (p : Place) :
    p.violation?.map Violation.summaries =
      if p.failures = [] then none else some (p.failures.map fun (path, code) => (fieldAt path, code)) := by
  rw [← summaries_eq_map_fieldAt, summaries]
  cases h : p.violation? with
  | none => rw [if_pos (p.violation?_eq_none_iff_failures.mp h), Option.map_none]
  | some e =>
    have hfail : p.failures ≠ [] := fun hnil => by simp [p.violation?_eq_none_iff_failures.mpr hnil] at h
    rw [if_neg hfail, Option.toList_some, List.flatMap_singleton, Option.map_some]

end Place

/-- The leaves of a violation are the failing positions in depth-first order: a position fails where a path through declared fields
and items ends at a place that does not meet its own demands, every place before it being there and meeting its own, and its leaf
has the path and the code of the first demand that is not met. -/
theorem Schema.leaves_eq_failing_positions (s : Schema) (v : Option Json) (e : Violation)
    (hkeys : s.AllFields fun fields => "" ∉ fields.keys) (h : s.check v = some e) :
    ∃ positions : List (List Step × String),
      (∀ path code, (path, code) ∈ positions ↔ (Place.mk s v none).FailsAt path code) ∧
      (s.AllFields Mapping.Ordered → positions.Pairwise fun a b => List.Lex Step.Before a.1 b.1) ∧
      (e.flatten.filter fun inner => !inner.hasNested).map (fun leaf => (leaf.field, leaf.code)) =
        positions.map fun (path, code) => (pathText path, code) := by
  refine ⟨(Place.mk s v none).failures, Place.mem_failures_iff _, Place.pairwise_failures ⟨s, v, none⟩, ?_⟩
  have hsum := Place.summaries_eq_failures ⟨s, v, none⟩ hkeys
  have hv : (Place.mk s v none).violation? = some e := h
  rw [Place.summaries, hv, Option.toList_some, List.flatMap_singleton] at hsum
  exact hsum

namespace TableWitness

/-- An object with an id that has to be there. -/
def row : Schema :=
  { Schema.ofTag .object with kind := .object [("id", (Schema.ofTag .number).required none)] }

/-- A table: rows, and a title of at least three characters, with a message of its own. -/
def table : Schema :=
  { Schema.ofTag .object with
    kind := .object [("rows", (Schema.ofTag .array).of row),
      ("title", (Schema.ofTag .string).rule (.withMessage (.minLength 3) "too short"))] }

/-- A table with a short title, a row without an id, and one whose id is null. -/
def broken : Json :=
  .obj [("rows", .arr [.obj [], .obj [("id", .null)]]), ("title", .str "a")]

/-- What holds of the fields of the table and of a row holds of all fields in the table. -/
theorem allFields_table {P : Mapping Schema → Prop} (hrow : ∀ fields, row.kind = .object fields → P fields)
    (htable : ∀ fields, table.kind = .object fields → P fields) : table.AllFields P := by
  have hleaf : ∀ s : Schema, s.kind = .number ∨ s.kind = .string → s.AllFields P := by
    intro s hs
    refine .intro ?_ ?_ ?_ <;> intro _ hk <;> rcases hs with hs | hs <;> rw [hs] at hk <;> cases hk
  have hid : row.AllFields P := by
    refine .intro hrow (fun fields hk entry hm => ?_) (fun _ hk => nomatch hk)
    cases hk
    cases List.mem_singleton.mp hm
    exact hleaf _ (Or.inl rfl)
  refine .intro htable (fun fields hk entry hm => ?_) (fun _ hk => nomatch hk)
  cases hk
  simp only [List.mem_cons, List.not_mem_nil, or_false] at hm
  rcases hm with rfl | rfl
  · refine .intro (fun _ hk => nomatch hk) (fun _ hk => nomatch hk) (fun element hk => ?_)
    cases hk
    exact hid
  · exact hleaf _ (Or.inr rfl)

/-- The leaves of a broken table are the ids of its two rows and its title. -/
theorem leaves_of_broken_table :
    (table.AllFields fun fields => "" ∉ fields.keys) ∧ table.AllFields Mapping.Ordered ∧
      ∃ e, table.check (some broken) = some e ∧
        ∃ positions : List (List Step × String),
          (∀ path code, (path, code) ∈ positions ↔ (Place.mk table (some broken) none).FailsAt path code) ∧
          (table.AllFields Mapping.Ordered → positions.Pairwise fun a b => List.Lex Step.Before a.1 b.1) ∧
          (e.flatten.filter fun inner => !inner.hasNested).map (fun leaf => (leaf.field, leaf.code)) =
            positions.map fun (path, code) => (pathText path, code) := by
  have hkeys : table.AllFields fun fields => "" ∉ fields.keys :=
    allFields_table (fun _ hk => by cases hk; decide) (fun _ hk => by cases hk; decide)
  have hordered : table.AllFields Mapping.Ordered :=
    allFields_table (fun _ hk => by cases hk; unfold Mapping.Ordered; decide)
      (fun _ hk => by cases hk; unfold Mapping.Ordered; decide)
  exact ⟨hkeys, hordered, _, rfl, Schema.leaves_eq_failing_positions table (some broken) _ hkeys rfl⟩

example :
    (table.check (some broken)).map (fun e => e.leaves.map fun leaf => (leaf.field, leaf.code)) =
      some [(some "rows.0.id", "required"), (some "rows.1.id", "required"), (some "title", "min_length")] := by
  decide

end TableWitness

end Schemata
