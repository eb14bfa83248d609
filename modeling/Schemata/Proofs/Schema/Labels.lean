import Schemata.Proofs.Schema.Localisation
import Schemata.Proofs.Violation.Parameters

/-!
# Labels in a report

What is said of a place is said with the label of its own schema, and under parameters with distinct keys (`Place.labelled_bare`). A
check reports what is said of each place that a path leads to and where something is wrong, moved along the path, and besides only the
reasons that a rule with a message of its own keeps below what it says, which have no label
(`Place.reports_or_reasons_of_mem_flatten`). So no label of a schema is seen anywhere but at the positions of that schema
(`Schema.params_distinct_and_labels_local`).
-/

namespace Schemata

namespace Violation

/-- Every violation in a tree is bare. -/
def BareThroughout (e : Violation) : Prop :=
  ∀ inner ∈ e.flatten, inner.Bare

variable {e : Violation}

/-- A violation with none below it is bare throughout when it is bare. -/
theorem Bare.throughout (h : e.Bare) (hn : e.nested = []) : e.BareThroughout := by
  intro inner hm
  rw [flatten_eq, hn] at hm
  exact List.mem_singleton.mp hm ▸ h

theorem BareThroughout.bare (h : e.BareThroughout) : e.Bare :=
  h e (by rw [flatten_eq]; exact List.mem_cons_self)

/-- What stands below is bare as well. -/
theorem BareThroughout.nested (h : e.BareThroughout) : ∀ inner ∈ e.nested.flatMap flatten, inner.Bare :=
  fun inner hm => h inner (by rw [flatten_eq]; exact List.mem_cons_of_mem e hm)

@[simp] theorem nested_labelled (e : Violation) (label : Option String) : (e.labelled label).nested = e.nested := by
  obtain ⟨params, h⟩ := labelled_eq e label
  rw [h]

@[simp] theorem params_along (e : Violation) (path : List Step) : (e.along path).params = e.params := by
  induction path with
  | nil => rfl
  | cons step path ih => exact (params_under _ _).trans ih

@[simp] theorem param_along (e : Violation) (path : List Step) (key : String) : (e.along path).param key = e.param key := by
  rw [param, params_along, param]

@[simp] theorem paramKeys_along (e : Violation) (path : List Step) : (e.along path).paramKeys = e.paramKeys := by
  rw [paramKeys, params_along, paramKeys]

end Violation

/-! ## What is said of a place -/

namespace Schema

variable {s : Schema} {v : Json} {parent : Option Members} {e : Violation}

theorem bareThroughout_requiredViolation (s : Schema) : s.requiredViolation.BareThroughout :=
  (Violation.bare_of_params_eq_nil rfl).throughout rfl

theorem bareThroughout_membershipViolation (code phrase : String) (set : Membership) (parent : Option Members) :
    (membershipViolation code phrase set parent).BareThroughout := by
  refine Violation.Bare.throughout ⟨?_, rfl⟩ rfl
  simp [Violation.paramKeys, membershipViolation, Violation.withParam, Violation.of]

/-- What is wrong with a value that is there is bare throughout before the label is added. -/
theorem bareThroughout_of_bodyViolation? (h : s.bodyViolation? v parent = some e) : e.BareThroughout := by
  simp only [bodyViolation?, Option.orElse_eq_orElse, Option.orElse_eq_or, Option.or_eq_some_iff] at h
  rcases h with hkind | ⟨-, hempty | ⟨-, hone | ⟨-, hnot | ⟨-, hrule⟩⟩⟩⟩
  · unfold kindViolation? at hkind
    split at hkind
    · cases hkind
    · cases hkind
      refine Violation.Bare.throughout ⟨?_, rfl⟩ rfl
      simp [Violation.paramKeys, Violation.typeMismatch, Violation.withParam, Violation.of]
  · unfold emptyViolation? at hempty
    split at hempty
    · cases hempty
      exact s.bareThroughout_requiredViolation
    · cases hempty
  · unfold oneOfViolation? at hone
    split at hone
    · split at hone
      · cases hone
      · cases hone
        exact bareThroughout_membershipViolation _ _ _ _
    · cases hone
  · unfold notOneOfViolation? at hnot
    split at hnot
    · split at hnot
      · cases hnot
        exact bareThroughout_membershipViolation _ _ _ _
      · cases hnot
    · cases hnot
  · obtain ⟨rule, -, hviolation⟩ := List.exists_of_findSome?_eq_some hrule
    unfold Rule.violation? at hviolation
    split at hviolation
    · cases hviolation
    · cases hviolation
      exact rule.bare_violation v

/-- What is wrong with a value itself is something bare throughout, with the label of the schema. -/
theorem exists_bareThroughout_of_ownViolation? {v : Option Json} (h : s.ownViolation? v parent = some e) :
    ∃ plain : Violation, plain.BareThroughout ∧ e = plain.labelled s.labelText := by
  obtain ⟨plain, hplain, rfl⟩ := Option.map_eq_some_iff.mp h
  refine ⟨plain, ?_, rfl⟩
  have hrequired : ∀ {found : Option Violation}, (∀ e, found = some e → e.BareThroughout) →
      (if s.isRequired then some s.requiredViolation else found) = some plain → plain.BareThroughout := by
    intro found hfound h
    split at h
    · cases h
      exact s.bareThroughout_requiredViolation
    · exact hfound _ h
  rcases v with _ | v
  · refine hrequired ?_ hplain
    exact nofun
  · cases v with
    | null =>
      refine hrequired (fun e he => ?_) hplain
      split at he
      · cases he
      · exact bareThroughout_of_bodyViolation? he
    | _ => exact bareThroughout_of_bodyViolation? hplain

end Schema

namespace Place

variable {p q : Place} {path : List Step} {e : Violation}

/-- Where a place is right by itself, what is said of it is said of the places below together. -/
theorem violation?_of_own_eq_none (h : p.ownViolation? = none) :
    p.violation? = Schema.together p.schema.tag.name p.schema.partsMessage p.schema.labelText p.partViolations := by
  rw [violation?_eq, h]
  rfl

/-- What is said there is the label of the schema, and what is said of the places below, each under its step. -/
theorem eq_of_own_eq_none (hown : p.ownViolation? = none) (h : p.violation? = some e) :
    e = ((Violation.of p.schema.tag.name p.schema.partsMessage).withNested p.partViolations).labelled p.schema.labelText := by
  rw [violation?_of_own_eq_none hown, Schema.together] at h
  split at h
  · cases h
  · exact (Option.some.inj h).symm

theorem nested_of_own_eq_none (hown : p.ownViolation? = none) (h : p.violation? = some e) : e.nested = p.partViolations := by
  rw [eq_of_own_eq_none hown h, Violation.nested_labelled]
  rfl

/-- What is said of a place is something bare with the label of its schema. -/
theorem labelled_bare (h : p.violation? = some e) : ∃ plain : Violation, plain.Bare ∧ e = plain.labelled p.schema.labelText := by
  cases hown : p.ownViolation? with
  | some found =>
    rw [violation?_eq, hown] at h
    cases h
    obtain ⟨plain, hplain, rfl⟩ := Schema.exists_bareThroughout_of_ownViolation? hown
    exact ⟨plain, hplain.bare, rfl⟩
  | none => exact ⟨_, Violation.bare_of_params_eq_nil rfl, eq_of_own_eq_none hown h⟩

/-! ## What a check reports -/

/-- What a check says of a place that a path leads to, moved along the path. -/
def Reports (p : Place) (path : List Step) (q : Place) (e : Violation) : Prop :=
  p.Reaches path q ∧ ∃ found, q.violation? = some found ∧ e = found.along path

/-- A reason that stands below what is wrong with a place itself, moved along the path to the place: what a rule would say without the
message of its own. -/
def Reasons (p : Place) (path : List Step) (q : Place) (e : Violation) : Prop :=
  p.Reaches path q ∧ ∃ found, q.ownViolation? = some found ∧ ∃ reason ∈ found.nested.flatMap Violation.flatten, e = reason.along path

/-- What is reported below a place that is right by itself is reported of the place, under one more step. -/
theorem Reports.step {part : Place} {step : Step} (met : AllMet p.checks) (isPart : p.HasPart step part)
    (h : part.Reports path q e) : p.Reports (step :: path) q (e.under step.text) := by
  obtain ⟨hreach, found, hfound, rfl⟩ := h
  exact ⟨.step met isPart hreach, found, hfound, rfl⟩

theorem Reasons.step {part : Place} {step : Step} (met : AllMet p.checks) (isPart : p.HasPart step part)
    (h : part.Reasons path q e) : p.Reasons (step :: path) q (e.under step.text) := by
  obtain ⟨hreach, found, hfound, reason, hreason, rfl⟩ := h
  exact ⟨.step met isPart hreach, found, hfound, reason, hreason, rfl⟩

/-- Where something is wrong with a place that a path leads to, a check finds something wrong, and reports it. -/
theorem Reports.mem_flatten (h : p.Reports path q e) : ∃ whole, p.violation? = some whole ∧ e ∈ whole.flatten := by
  obtain ⟨hreach, found, hfound, rfl⟩ := h
  induction hreach with
  | here => exact ⟨found, hfound, by rw [Violation.flatten_eq]; exact List.mem_cons_self⟩
  | @step p part q step path met isPart _ ih =>
    obtain ⟨inner, hinner, hm⟩ := ih hfound
    have hown : p.ownViolation? = none := p.allMet_checks_iff.mp met
    have hpart : inner.under step.text ∈ p.partViolations :=
      List.mem_filterMap.mpr ⟨(step, part), (mem_parts_iff p step part).mpr isPart, by simp only [hinner, Option.map_some]⟩
    cases hwhole : p.violation? with
    | none =>
      rw [violation?_of_own_eq_none hown, Schema.together_eq_none_iff] at hwhole
      rw [hwhole] at hpart
      cases hpart
    | some whole =>
      refine ⟨whole, rfl, ?_⟩
      rw [Violation.flatten_eq, nested_of_own_eq_none hown hwhole]
      refine List.mem_cons_of_mem _ (List.mem_flatMap.mpr ⟨_, hpart, ?_⟩)
      rw [Violation.flatten_under]
      exact List.mem_map_of_mem hm

/-- All that a check says is what it reports of places, and reasons below it. -/
theorem reports_or_reasons_of_mem_flatten {whole : Violation} (h : p.violation? = some whole) (hm : e ∈ whole.flatten) :
    ∃ path q, p.Reports path q e ∨ p.Reasons path q e := by
  induction p using Place.induct generalizing whole e with
  | step p ih =>
    rw [Violation.flatten_eq] at hm
    rcases List.mem_cons.mp hm with rfl | hm
    · exact ⟨[], p, Or.inl ⟨.here p, e, h, rfl⟩⟩
    · cases hown : p.ownViolation? with
      | some found =>
        have hwhole : found = whole := by
          rw [violation?_eq, hown] at h
          exact Option.some.inj h
        exact ⟨[], p, Or.inr ⟨.here p, found, hown, e, hwhole ▸ hm, rfl⟩⟩
      | none =>
        rw [nested_of_own_eq_none hown h] at hm
        obtain ⟨below, hbelow, hm⟩ := List.mem_flatMap.mp hm
        obtain ⟨⟨step, part⟩, hpart, hsome⟩ := List.mem_filterMap.mp hbelow
        obtain ⟨found, hfound, rfl⟩ := Option.map_eq_some_iff.mp hsome
        rw [Violation.flatten_under] at hm
        obtain ⟨inner, hinner, rfl⟩ := List.mem_map.mp hm
        have met : AllMet p.checks := p.allMet_checks_iff.mpr hown
        have isPart := (mem_parts_iff p step part).mp hpart
        obtain ⟨path, q, hreports | hreasons⟩ := ih _ hpart hfound hinner
        · exact ⟨step :: path, q, Or.inl (hreports.step met isPart)⟩
        · exact ⟨step :: path, q, Or.inr (hreasons.step met isPart)⟩

/-- What is reported of a place has distinct keys, and the label of the schema of the place. -/
theorem Reports.keys_and_label (h : p.Reports path q e) : e.paramKeys.Nodup ∧ e.param "label" = q.schema.labelText := by
  obtain ⟨-, found, hfound, rfl⟩ := h
  obtain ⟨plain, hplain, rfl⟩ := labelled_bare hfound
  rw [Violation.paramKeys_along, Violation.param_along]
  exact ⟨hplain.nodup_labelled _, hplain.param_labelled _⟩

/-- A reason has distinct keys, and no label. -/
theorem Reasons.bare (h : p.Reasons path q e) : e.Bare := by
  obtain ⟨-, found, hfound, reason, hreason, rfl⟩ := h
  obtain ⟨plain, hplain, rfl⟩ := Schema.exists_bareThroughout_of_ownViolation? hfound
  rw [Violation.nested_labelled] at hreason
  obtain ⟨hnodup, hlabel⟩ := hplain.nested reason hreason
  exact ⟨by rwa [Violation.paramKeys_along], by rwa [Violation.param_along]⟩

end Place

/-- In all that a check says, parameters have distinct keys, so that each reads in the document as it is looked up. What is reported of
a position has the label of the schema at that position, if it has one; and all else are reasons below that, which have no label. -/
theorem Schema.params_distinct_and_labels_local (s : Schema) (v : Option Json) (whole : Violation) (h : s.check v = some whole) :
    (∀ e ∈ whole.flatten, (e.params.map Prod.fst).Nodup ∧
      ∀ key, (e.toJson.member? "params").bind (·.member? key) = (e.param key).map .str) ∧
    (∀ path q e, (Place.mk s v none).Reports path q e → e ∈ whole.flatten ∧ e.param "label" = q.schema.labelText) ∧
    ∀ e ∈ whole.flatten, ∃ path q, (Place.mk s v none).Reports path q e ∨
      (Place.mk s v none).Reasons path q e ∧ e.param "label" = none := by
  have hwhole : (Place.mk s v none).violation? = some whole := h
  refine ⟨fun e he => ?_, fun path q e hreports => ?_, fun e he => ?_⟩
  · have hnodup : e.paramKeys.Nodup := by
      obtain ⟨path, q, hreports | hreasons⟩ := Place.reports_or_reasons_of_mem_flatten hwhole he
      · exact hreports.keys_and_label.1
      · exact hreasons.bare.nodup
    exact ⟨hnodup, Violation.member?_params hnodup⟩
  · obtain ⟨whole', hwhole', hm⟩ := hreports.mem_flatten
    rw [hwhole] at hwhole'
    cases hwhole'
    exact ⟨hm, hreports.keys_and_label.2⟩
  · obtain ⟨path, q, hreports | hreasons⟩ := Place.reports_or_reasons_of_mem_flatten hwhole he
    · exact ⟨path, q, Or.inl hreports⟩
    · exact ⟨path, q, Or.inr ⟨hreasons, hreasons.bare.unlabelled⟩⟩

namespace LabelsWitness

/-- A booking: a party of at least two, with messages upon messages, and guests without a label whose names have one. -/
def booking : Schema :=
  ((Schema.ofTag .object).shape
    [("guests", (Schema.ofTag .array).of ((Schema.ofTag .string).label "Guest")),
      ("party", ((Schema.ofTag .number).label "Party").rule (.withMessage (.withMessage (.min (.ofInt 2 (by decide))) "two") "more"))]).label
    "Booking"

/-- A booking for one, with a guest that is no name. -/
def single : Json :=
  .obj [("guests", .arr [.bool true]), ("party", .num (.ofNat 1 (by decide)))]

/-- Every position of the booking has its own label, or none. -/
theorem labels_of_single :
    ∃ whole, booking.check (some single) = some whole ∧
      (∀ e ∈ whole.flatten, (e.params.map Prod.fst).Nodup ∧
        ∀ key, (e.toJson.member? "params").bind (·.member? key) = (e.param key).map .str) ∧
      (∀ path q e, (Place.mk booking (some single) none).Reports path q e →
        e ∈ whole.flatten ∧ e.param "label" = q.schema.labelText) ∧
      ∀ e ∈ whole.flatten, ∃ path q, (Place.mk booking (some single) none).Reports path q e ∨
        (Place.mk booking (some single) none).Reasons path q e ∧ e.param "label" = none := by
  have hwrong : (booking.check (some single)).isSome = true := by decide +kernel
  obtain ⟨whole, hwhole⟩ := Option.isSome_iff_exists.mp hwrong
  exact ⟨whole, hwhole, Schema.params_distinct_and_labels_local booking (some single) whole hwhole⟩

example :
    (booking.check (some single)).map (fun e => e.flatten.map fun inner => (inner.field, inner.message, inner.param "label")) =
      some [(none, "Object validation failed", some "Booking"), (some "guests", "Array validation failed", none),
        (some "guests.0", "Expected a value of type string", some "Guest"), (some "party", "more", some "Party"),
        (some "party", "two", none), (some "party", "Value must be at least 2", none)] := by
  decide +kernel

end LabelsWitness

end Schemata
