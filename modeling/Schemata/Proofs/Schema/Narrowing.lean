import Schemata.Proofs.Schema.Refinement

/-!
# Narrower schemas

A schema narrows another when it accepts nothing that the other rejects, in no object (`Schema.Narrows`). Most refinements narrow the
schema they are made of (`Refinement.narrows_apply`): what is asked is added to what was asked before. And a schema is narrowed when a
schema somewhere inside it is (`Schema.NarrowedInside.narrows`), since what is asked of a value is asked of its parts by the schemas of
the parts alone.
-/

namespace Schemata

namespace Schema

/-- A schema accepts no value, and no absence, that another rejects, whatever object is around it. -/
def Narrows (s' s : Schema) : Prop :=
  ∀ v parent, s'.violation? v parent = none → s.violation? v parent = none

variable {s s' s'' : Schema}

theorem Narrows.refl (s : Schema) : s.Narrows s :=
  fun _ _ h => h

/-- What is accepted by a narrower schema is accepted. -/
theorem Narrows.accepts (h : s'.Narrows s) {v : Option Json} {parent : Option Members} (ha : s'.Accepts v parent) :
    s.Accepts v parent :=
  (Place.violation?_eq_none_iff_accepts ⟨s, v, parent⟩).mp
    (h v parent ((Place.violation?_eq_none_iff_accepts ⟨s', v, parent⟩).mpr ha))

/-- A schema narrows another if it asks for presence where the other does, excuses null only where the other does, and what fits it
fits the other. -/
theorem narrows_of_fits (required : s.isRequired = true → s'.isRequired = true)
    (nullable : s'.isNullable = true → s.isNullable = true) (fits : ∀ {v parent}, s'.Fits v parent → s.Fits v parent) :
    s'.Narrows s := by
  have hfree : s'.isRequired = false → s.isRequired = false := by
    intro h
    by_contra hr
    rw [required (by simpa using hr)] at h
    cases h
  intro v parent h
  refine (Place.violation?_eq_none_iff_accepts ⟨s, v, parent⟩).mpr ?_
  rcases (Place.violation?_eq_none_iff_accepts ⟨s', v, parent⟩).mp h with free | ⟨free, null⟩ | ⟨free, hfits⟩ | ⟨present, hfits⟩
  · exact .absent (hfree free)
  · exact .nullable (hfree free) (nullable null)
  · exact .null (hfree free) (fits hfits)
  · exact .present present (fits hfits)

/-! ## Narrower parts -/

/-- A schema of objects is narrowed by fields that have a narrower schema under each key, and more besides. -/
theorem narrows_of_fields {fields fields' : Mapping Schema} (hk : s.kind = .object fields)
    (h : ∀ key field, (key, field) ∈ fields → ∃ field', (key, field') ∈ fields' ∧ field'.Narrows field) :
    Narrows { s with kind := .object fields' } s := by
  have htag : s.tag = .object := by rw [tag, hk, Kind.tag]
  refine narrows_of_fits id id fun {v parent} hfits => ?_
  obtain ⟨kind, -, oneOf, notOneOf, rules, hfields, -⟩ := hfits
  refine ⟨htag ▸ kind, by simp [htag], oneOf, notOneOf, rules, fun known members hknown hv key field hm => ?_, fun element _ he => ?_⟩
  · cases hk.symm.trans hknown
    obtain ⟨field', hm', hnarrows⟩ := h key field hm
    exact hnarrows.accepts (hfields fields' members rfl hv key field' hm')
  · cases hk.symm.trans he

/-- A schema of arrays is narrowed by a schema of items that accepts no value the other rejects; an item is never absent. -/
theorem narrows_of_items {element element' : Schema} (hk : s.kind = .array (some element))
    (h : ∀ v parent, element'.violation? (some v) parent = none → element.violation? (some v) parent = none) :
    Narrows { s with kind := .array (some element') } s := by
  have htag : s.tag = .array := by rw [tag, hk, Kind.tag]
  refine narrows_of_fits id id fun {v parent} hfits => ?_
  obtain ⟨kind, -, oneOf, notOneOf, rules, -, hitems⟩ := hfits
  refine ⟨htag ▸ kind, by simp [htag], oneOf, notOneOf, rules, fun known _ hknown => ?_, fun known items hknown hv item hm => ?_⟩
  · cases hk.symm.trans hknown
  · cases hk.symm.trans hknown
    have hitem := (Place.violation?_eq_none_iff_accepts ⟨element', some item, parent⟩).mpr (hitems element' items rfl hv item hm)
    exact (Place.violation?_eq_none_iff_accepts ⟨element, some item, parent⟩).mp (h item parent hitem)

/-- A schema with the schema of one field, or of the items, replaced at some depth by one that accepts nothing it rejects: no value and
no absence in the place of a field, no value in the place of an item. -/
inductive NarrowedInside : Schema → Schema → Prop where
  | field {s field field' : Schema} {before after : Mapping Schema} {key : String}
      (kind : s.kind = .object (before ++ (key, field) :: after)) (narrows : field'.Narrows field) :
      NarrowedInside s { s with kind := .object (before ++ (key, field') :: after) }
  | items {s element element' : Schema} (kind : s.kind = .array (some element))
      (narrows : ∀ v parent, element'.violation? (some v) parent = none → element.violation? (some v) parent = none) :
      NarrowedInside s { s with kind := .array (some element') }
  | insideField {s field field' : Schema} {before after : Mapping Schema} {key : String}
      (kind : s.kind = .object (before ++ (key, field) :: after)) (inside : NarrowedInside field field') :
      NarrowedInside s { s with kind := .object (before ++ (key, field') :: after) }
  | insideItems {s element element' : Schema} (kind : s.kind = .array (some element)) (inside : NarrowedInside element element') :
      NarrowedInside s { s with kind := .array (some element') }

/-- Fields of which one is replaced by a narrower one. -/
theorem narrows_of_field {field field' : Schema} {before after : Mapping Schema} {key : String}
    (hk : s.kind = .object (before ++ (key, field) :: after)) (h : field'.Narrows field) :
    Narrows { s with kind := .object (before ++ (key, field') :: after) } s := by
  refine narrows_of_fields hk fun k f hm => ?_
  rcases List.mem_append.mp hm with hm | hm
  · exact ⟨f, List.mem_append_left _ hm, .refl f⟩
  · rcases List.mem_cons.mp hm with heq | hm
    · cases heq
      exact ⟨field', List.mem_append_right _ List.mem_cons_self, h⟩
    · exact ⟨f, List.mem_append_right _ (List.mem_cons_of_mem _ hm), .refl f⟩

/-- A schema is narrowed when a schema inside it is. -/
theorem NarrowedInside.narrows (h : s.NarrowedInside s') : s'.Narrows s := by
  induction h with
  | field kind narrows => exact narrows_of_field kind narrows
  | items kind narrows => exact narrows_of_items kind narrows
  | insideField kind _ ih => exact narrows_of_field kind ih
  | insideItems kind _ ih => exact narrows_of_items kind fun v => ih (some v)

end Schema

/-! ## Narrowing refinements -/

namespace Refinement

/-- A refinement of a schema that adds to what is asked, or to what is said: a set where there is none yet, and fields under keys of
which nothing is known. -/
def Adds (s : Schema) : Refinement → Prop
  | .required _ | .label _ | .rule _ => True
  | .nullable flag => flag = false
  | .oneOf _ _ => s.oneOfSet = none
  | .notOneOf _ _ => s.notOneOfSet = none
  | .shape fields => ∃ known, s.kind = .object known ∧ (Mapping.keys fields).Disjoint (Mapping.keys known)
  | .optional | .of _ => False

variable {s : Schema}

/-- A refinement that adds to what is asked narrows the schema. -/
theorem narrows_apply {r : Refinement} (h : r.Adds s) : (r.apply s).Narrows s := by
  cases r with
  | required message =>
    refine Schema.narrows_of_fits (fun _ => rfl) id ?_
    rintro v parent ⟨kind, nonempty, oneOf, notOneOf, rules, fields, items⟩
    exact ⟨kind, fun ⟨_, htext⟩ => nonempty ⟨rfl, htext⟩, oneOf, notOneOf, rules, fields, items⟩
  | nullable flag =>
    have hflag : flag = false := h
    refine Schema.narrows_of_fits id (fun hnull => ?_) ?_
    · exact absurd (hflag.symm.trans hnull) (by decide)
    · rintro v parent ⟨kind, nonempty, oneOf, notOneOf, rules, fields, items⟩
      exact ⟨kind, nonempty, oneOf, notOneOf, rules, fields, items⟩
  | label text =>
    refine Schema.narrows_of_fits id id ?_
    rintro v parent ⟨kind, nonempty, oneOf, notOneOf, rules, fields, items⟩
    exact ⟨kind, nonempty, oneOf, notOneOf, rules, fields, items⟩
  | rule r =>
    refine Schema.narrows_of_fits id id ?_
    rintro v parent ⟨kind, nonempty, oneOf, notOneOf, rules, fields, items⟩
    exact ⟨kind, nonempty, oneOf, notOneOf, fun rule hm => rules rule (List.mem_append_left _ hm), fields, items⟩
  | oneOf values message =>
    have hnone : s.oneOfSet = none := h
    refine Schema.narrows_of_fits id id ?_
    rintro v parent ⟨kind, nonempty, -, notOneOf, rules, fields, items⟩
    exact ⟨kind, nonempty, by simp [hnone], notOneOf, rules, fields, items⟩
  | notOneOf values message =>
    have hnone : s.notOneOfSet = none := h
    refine Schema.narrows_of_fits id id ?_
    rintro v parent ⟨kind, nonempty, oneOf, -, rules, fields, items⟩
    exact ⟨kind, nonempty, oneOf, by simp [hnone], rules, fields, items⟩
  | shape fields =>
    obtain ⟨known, hk, hdisjoint⟩ := h
    have hshape : s.shape fields = { s with kind := .object (Mapping.insertAll known fields) } := by rw [Schema.shape, hk]
    show (s.shape fields).Narrows s
    rw [hshape]
    refine Schema.narrows_of_fields hk fun key field hm => ⟨field, Mapping.mem_insertAll_of_mem hm ?_, .refl field⟩
    exact fun hkey => hdisjoint hkey (List.mem_map_of_mem hm)
  | optional => exact h.elim
  | of element => exact h.elim

end Refinement

/-- A schema is narrowed by every refinement that adds to what is asked, and by narrowing a schema inside it. -/
theorem Schema.refinements_narrow (s : Schema) :
    (∀ r : Refinement, r.Adds s → (r.apply s).Narrows s) ∧ ∀ s', s.NarrowedInside s' → s'.Narrows s :=
  ⟨fun _ => Refinement.narrows_apply, fun _ => NarrowedInside.narrows⟩

namespace NarrowingWitness

/-- A line of an order, whose count is described by a schema. -/
def line (count : Schema) : Schema :=
  { Schema.ofTag .object with kind := .object [("count", count), ("name", .ofTag .string)] }

/-- An order of lines. -/
def order (count : Schema) : Schema :=
  { Schema.ofTag .object with kind := .object [("lines", (Schema.ofTag .array).of (line count))] }

/-- Who orders, which has to be said. -/
def buyer : Refinement :=
  .shape [("buyer", (Schema.ofTag .string).required none)]

/-- A count that has to be there narrows the count in the lines of an order. -/
theorem narrowedInside_order : (order (.ofTag .number)).NarrowedInside (order ((Schema.ofTag .number).required none)) := by
  have hcount : ((Schema.ofTag .number).required none).Narrows (.ofTag .number) :=
    Refinement.narrows_apply (r := .required none) trivial
  have hline : (line (.ofTag .number)).NarrowedInside (line ((Schema.ofTag .number).required none)) :=
    @Schema.NarrowedInside.field (line (.ofTag .number)) _ _ [] [("name", .ofTag .string)] "count" rfl hcount
  have hlines := @Schema.NarrowedInside.insideItems ((Schema.ofTag .array).of (line (.ofTag .number))) _ _ rfl hline
  exact @Schema.NarrowedInside.insideField (order (.ofTag .number)) _ _ [] [] "lines" rfl hlines

/-- An order is narrowed by asking who orders, and by asking for the counts in its lines. -/
theorem order_narrows :
    (buyer.Adds (order (.ofTag .number)) ∧ (buyer.apply (order (.ofTag .number))).Narrows (order (.ofTag .number))) ∧
      (order (.ofTag .number)).NarrowedInside (order ((Schema.ofTag .number).required none)) ∧
        (order ((Schema.ofTag .number).required none)).Narrows (order (.ofTag .number)) := by
  have hadds : buyer.Adds (order (.ofTag .number)) := ⟨_, rfl, by simp [Mapping.keys]⟩
  obtain ⟨hrefined, hinside⟩ := (order (.ofTag .number)).refinements_narrow
  exact ⟨⟨hadds, hrefined buyer hadds⟩, narrowedInside_order, hinside _ narrowedInside_order⟩

example :
    let lines := some (Json.obj [("lines", .arr [.obj [("name", .str "tea")]])])
    (order (.ofTag .number)).isValid lines = true ∧ (order ((Schema.ofTag .number).required none)).isValid lines = false ∧
      (buyer.apply (order (.ofTag .number))).isValid lines = false := by
  decide

end NarrowingWitness

end Schemata
