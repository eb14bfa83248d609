import Schemata.Proofs.Schema.Place

/-!
# What a schema accepts

`Schema.Accepts` says, in no order, what a schema asks of a value, or of its absence, in the object around it. A check looks at these
things one after another and stops at the first that is wrong; it finds nothing wrong exactly with what is accepted
(`Place.violation?_eq_none_iff_accepts`).
-/

namespace Schemata

namespace Schema

mutual

/-- A schema accepts a value, or its absence, given the object around it. -/
inductive Accepts : Schema → Option Json → Option Members → Prop where
  | absent {s : Schema} {parent : Option Members} (free : s.isRequired = false) : Accepts s none parent
  | nullable {s : Schema} {parent : Option Members} (free : s.isRequired = false) (nullable : s.isNullable = true) :
      Accepts s (some .null) parent
  | null {s : Schema} {parent : Option Members} (free : s.isRequired = false) (fits : Fits s .null parent) :
      Accepts s (some .null) parent
  | present {s : Schema} {v : Json} {parent : Option Members} (present : v ≠ .null) (fits : Fits s v parent) :
      Accepts s (some v) parent

/-- A value that is there is all that a schema asks for: the fields of an object see that object around them, the items of an
array the object around the array. -/
inductive Fits : Schema → Json → Option Members → Prop where
  | intro {s : Schema} {v : Json} {parent : Option Members}
      (kind : s.tag.admits v = true)
      (nonempty : ¬(s.isRequired = true ∧ s.tag = .string ∧ v = .str ""))
      (oneOf : ∀ set, s.oneOfSet = some set →
        ∃ entry ∈ set.values, ∃ w, entry.resolve parent = some w ∧ Membership.sameEntry w v = true)
      (notOneOf : ∀ set, s.notOneOfSet = some set →
        ∀ entry ∈ set.values, ∀ w, entry.resolve parent = some w → Membership.sameEntry w v = false)
      (rules : ∀ rule ∈ s.rules, rule.accepts v = true)
      (fields : ∀ fields members, s.kind = .object fields → v = .obj members →
        ∀ key field, (key, field) ∈ fields → Accepts field (Mapping.get? members key) (some members))
      (items : ∀ element items, s.kind = .array (some element) → v = .arr items →
        ∀ item ∈ items, Accepts element (some item) parent) :
      Fits s v parent

end

/-- An absence is accepted where nothing has to be there. -/
theorem accepts_none_iff (s : Schema) (parent : Option Members) : s.Accepts none parent ↔ s.isRequired = false :=
  ⟨fun h => by cases h; assumption, .absent⟩

/-- Null is accepted where nothing has to be there, and null may be or fits. -/
theorem accepts_null_iff (s : Schema) (parent : Option Members) :
    s.Accepts (some .null) parent ↔ s.isRequired = false ∧ (s.isNullable = true ∨ s.Fits .null parent) := by
  constructor
  · intro h
    cases h with
    | nullable free nullable => exact ⟨free, Or.inl nullable⟩
    | null free fits => exact ⟨free, Or.inr fits⟩
    | present present _ => exact absurd rfl present
  · rintro ⟨free, nullable | fits⟩
    · exact .nullable free nullable
    · exact .null free fits

/-- Any other value is accepted if it fits. -/
theorem accepts_some_iff (s : Schema) {v : Json} (parent : Option Members) (hv : v ≠ .null) :
    s.Accepts (some v) parent ↔ s.Fits v parent := by
  constructor
  · intro h
    cases h with
    | nullable _ _ => exact absurd rfl hv
    | null _ _ => exact absurd rfl hv
    | present _ fits => exact fits
  · exact .present hv

/-! ## What is asked of a value itself -/

/-- A value is in a set when some entry of it, resolved, is the value. -/
theorem contains_iff (set : Membership) (v : Json) (parent : Option Members) :
    set.contains v parent = true ↔
      ∃ entry ∈ set.values, ∃ w, entry.resolve parent = some w ∧ Membership.sameEntry w v = true := by
  simp only [Membership.contains, List.any_eq_true, Option.any_eq_true]

/-- A text is missed only where a text has to be there and the empty one is. -/
theorem emptyViolation?_eq_none_iff (s : Schema) (v : Json) :
    s.emptyViolation? v = none ↔ ¬(s.isRequired = true ∧ s.tag = .string ∧ v = .str "") := by
  unfold emptyViolation?
  split
  · simp_all
  · rename_i h
    simp only [true_iff]
    rintro ⟨hr, ht, hv⟩
    exact h hr ht hv

/-- The set that a value has to be in has it. -/
theorem oneOfViolation?_eq_none_iff (s : Schema) (v : Json) (parent : Option Members) :
    s.oneOfViolation? v parent = none ↔ ∀ set, s.oneOfSet = some set →
      ∃ entry ∈ set.values, ∃ w, entry.resolve parent = some w ∧ Membership.sameEntry w v = true := by
  unfold oneOfViolation?
  cases s.oneOfSet with
  | none => simp
  | some set => simp [← contains_iff]

/-- The set that a value must not be in has it not. -/
theorem notOneOfViolation?_eq_none_iff (s : Schema) (v : Json) (parent : Option Members) :
    s.notOneOfViolation? v parent = none ↔ ∀ set, s.notOneOfSet = some set →
      ∀ entry ∈ set.values, ∀ w, entry.resolve parent = some w → Membership.sameEntry w v = false := by
  unfold notOneOfViolation?
  cases s.notOneOfSet with
  | none => simp
  | some set =>
    have h := not_congr (contains_iff set v parent)
    simp only [Bool.not_eq_true, not_exists, not_and] at h
    simp [← h]

/-- Nothing is wrong with a value that is there exactly when it is all that is asked of it, its parts aside. -/
theorem bodyViolation?_eq_none_iff (s : Schema) (v : Json) (parent : Option Members) :
    s.bodyViolation? v parent = none ↔
      s.tag.admits v = true ∧ ¬(s.isRequired = true ∧ s.tag = .string ∧ v = .str "") ∧
      (∀ set, s.oneOfSet = some set →
        ∃ entry ∈ set.values, ∃ w, entry.resolve parent = some w ∧ Membership.sameEntry w v = true) ∧
      (∀ set, s.notOneOfSet = some set →
        ∀ entry ∈ set.values, ∀ w, entry.resolve parent = some w → Membership.sameEntry w v = false) ∧
      ∀ rule ∈ s.rules, rule.accepts v = true := by
  rw [← emptyViolation?_eq_none_iff, ← oneOfViolation?_eq_none_iff, ← notOneOfViolation?_eq_none_iff]
  simp [bodyViolation?, kindViolation?, ruleViolation?]

/-- A value that is not there is missed only where one has to be. -/
theorem ownViolation?_none_eq_none_iff (s : Schema) (parent : Option Members) :
    s.ownViolation? none parent = none ↔ s.isRequired = false := by
  simp [ownViolation?]

/-- Null is as good as missing where a value has to be there, and excused where it may be null. -/
theorem ownViolation?_null_eq_none_iff (s : Schema) (parent : Option Members) :
    s.ownViolation? (some .null) parent = none ↔
      s.isRequired = false ∧ (s.isNullable = true ∨ s.bodyViolation? .null parent = none) := by
  cases hr : s.isRequired <;> cases hn : s.isNullable <;> simp [ownViolation?, hr, hn]

/-- Any other value is looked at. -/
theorem ownViolation?_some_eq_none_iff (s : Schema) {v : Json} (parent : Option Members) (hv : v ≠ .null) :
    s.ownViolation? (some v) parent = none ↔ s.bodyViolation? v parent = none := by
  cases v with
  | null => exact absurd rfl hv
  | _ => simp [ownViolation?]

/-! ## What is asked of the parts -/

/-- What holds of the places below a value holds of its declared fields and of its items. -/
theorem forall_parts_iff (s : Schema) (v : Json) (parent : Option Members) (P : Schema → Option Json → Option Members → Prop) :
    (∀ entry ∈ (Place.mk s (some v) parent).parts, P entry.2.schema entry.2.value entry.2.parent) ↔
      (∀ fields members, s.kind = .object fields → v = .obj members →
        ∀ key field, (key, field) ∈ fields → P field (Mapping.get? members key) (some members)) ∧
      ∀ element items, s.kind = .array (some element) → v = .arr items → ∀ item ∈ items, P element (some item) parent := by
  constructor
  · intro h
    refine ⟨fun fields members hk hv key field hm => ?_, fun element items hk hv item hm => ?_⟩
    · exact h (.key key, ⟨field, Mapping.get? members key, some members⟩)
        ((Place.mem_parts_iff _ _ _).mpr (.field hk (congrArg some hv) hm))
    · obtain ⟨i, hi⟩ := List.getElem?_of_mem hm
      exact h (.index i, ⟨element, some item, parent⟩) ((Place.mem_parts_iff _ _ _).mpr (.item hk (congrArg some hv) hi))
  · rintro ⟨hfields, hitems⟩ ⟨step, part⟩ h
    rcases (Place.mem_parts_iff _ _ _).mp h with ⟨hk, hv, hm⟩ | ⟨hk, hv, hi⟩
    · exact hfields _ _ hk (Option.some.inj hv) _ _ hm
    · exact hitems _ _ hk (Option.some.inj hv) _ (List.mem_of_getElem? hi)

/-- A value fits when nothing is wrong with it alone, and its parts are accepted. -/
theorem fits_iff (s : Schema) (v : Json) (parent : Option Members) :
    s.Fits v parent ↔ s.bodyViolation? v parent = none ∧
      ∀ entry ∈ (Place.mk s (some v) parent).parts, entry.2.schema.Accepts entry.2.value entry.2.parent := by
  rw [bodyViolation?_eq_none_iff, forall_parts_iff s v parent Accepts]
  constructor
  · rintro ⟨kind, nonempty, oneOf, notOneOf, rules, fields, items⟩
    exact ⟨⟨kind, nonempty, oneOf, notOneOf, rules⟩, fields, items⟩
  · rintro ⟨⟨kind, nonempty, oneOf, notOneOf, rules⟩, fields, items⟩
    exact ⟨kind, nonempty, oneOf, notOneOf, rules, fields, items⟩

/-- Null has no parts. -/
theorem parts_null (s : Schema) (parent : Option Members) : (Place.mk s (some .null) parent).parts = [] := by
  unfold Place.parts
  split <;> simp_all

/-- What is missing has no parts. -/
theorem parts_none (s : Schema) (parent : Option Members) : (Place.mk s none parent).parts = [] := by
  unfold Place.parts
  split <;> simp_all

end Schema

/-- Nothing is wrong at a place exactly when what is there is accepted. -/
theorem Place.violation?_eq_none_iff_accepts (p : Place) :
    p.violation? = none ↔ p.schema.Accepts p.value p.parent := by
  induction p using Place.induct with
  | step p ih =>
    -- The places below are settled by induction; what is left is the place itself, by what is there.
    rw [Place.violation?_eq_none_iff, forall₂_congr ih]
    obtain ⟨s, value, parent⟩ := p
    simp only [Place.ownViolation?]
    rcases value with _ | v
    · simp [Schema.ownViolation?_none_eq_none_iff, Schema.accepts_none_iff, Schema.parts_none]
    · by_cases hv : v = .null
      · subst hv
        rw [Schema.ownViolation?_null_eq_none_iff, Schema.accepts_null_iff, Schema.fits_iff, Schema.parts_null]
        simp
      · rw [Schema.ownViolation?_some_eq_none_iff s parent hv, Schema.accepts_some_iff s parent hv, Schema.fits_iff]

instance (s : Schema) (v : Option Json) (parent : Option Members) : Decidable (s.Accepts v parent) :=
  decidable_of_iff _ (Place.violation?_eq_none_iff_accepts ⟨s, v, parent⟩)

/-- A check succeeds exactly on what is accepted, whatever object is around it, and so do its four entries, which look at a value
or at an absence with no object around it, and say what is wrong or only whether anything is. -/
theorem Schema.check_iff_accepts (s : Schema) (v : Option Json) :
    (∀ parent, s.violation? v parent = none ↔ s.Accepts v parent) ∧
      (s.check v = none ↔ s.Accepts v none) ∧ (s.isValid v = true ↔ s.Accepts v none) := by
  have h : ∀ parent, s.violation? v parent = none ↔ s.Accepts v parent :=
    fun parent => Place.violation?_eq_none_iff_accepts ⟨s, v, parent⟩
  refine ⟨h, h none, ?_⟩
  rw [isValid, Option.isNone_iff_eq_none]
  exact h none

/-- An item sees the object around its array: a list of names that repeats the name beside it is refused. -/
example :
    let names := (Schema.ofTag .array).of ((Schema.ofTag .string).notOneOf [.reference ⟨"name"⟩] none)
    let s := (Schema.ofTag .object).shape [("name", .ofTag .string), ("others", names)]
    ¬s.Accepts (some (.obj [("name", .str "a"), ("others", .arr [.str "b", .str "a"])])) none ∧
      s.Accepts (some (.obj [("others", .arr [.str "b", .str "a"])])) none := by
  decide

end Schemata
