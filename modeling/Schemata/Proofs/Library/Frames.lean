import Schemata.Proofs.Library.Refinements

/-!
# What a member leaves alone

A member that is called on a schema changes the part that it is named for, or adds one rule after the others, and leaves every other
part of the schema as it was, the kind among them (`Member.call?_changes`).
-/

namespace Schemata

/-- The fields of a shape describe schemas under their own keys. -/
theorem FieldsDescribe.exists_of_mem {named : List (String × Term)} {schemas : List (String × Schema)}
    (h : FieldsDescribe named schemas) {key : String} {field : Schema} (hm : (key, field) ∈ schemas) :
    ∃ term, (key, term) ∈ named ∧ term.Describes field := by
  induction named generalizing schemas with
  | nil =>
    cases h
    cases hm
  | cons entry rest ih =>
    cases h with
    | cons head tail =>
      rcases List.mem_cons.mp hm with heq | hm
      · cases heq
        exact ⟨_, List.mem_cons_self, head⟩
      · obtain ⟨term, hterm, hdescribes⟩ := ih tail hm
        exact ⟨term, List.mem_cons_of_mem _ hterm, hdescribes⟩

/-- The schemas of fields have their keys. -/
theorem FieldsDescribe.keys_eq {named : List (String × Term)} {schemas : List (String × Schema)}
    (h : FieldsDescribe named schemas) : Mapping.keys schemas = Mapping.keys named := by
  induction named generalizing schemas with
  | nil =>
    cases h
    rfl
  | cons entry rest ih =>
    cases h with
    | cons _ tail => exact congrArg₂ List.cons rfl (ih tail)

/-- A schema of objects has fields. -/
theorem Schema.exists_fields {s : Schema} (h : s.tag = .object) : ∃ known, s.kind = .object known := by
  obtain ⟨kind, _, _, _, _, _, _, _⟩ := s
  cases kind with
  | object known => exact ⟨known, rfl⟩
  | _ => cases h

/-- A schema of arrays has a place for the schema of the items. -/
theorem Schema.exists_element {s : Schema} (h : s.tag = .array) : ∃ known, s.kind = .array known := by
  obtain ⟨kind, _, _, _, _, _, _, _⟩ := s
  cases kind with
  | array known => exact ⟨known, rfl⟩
  | _ => cases h

namespace Member

/-- What a member makes of a schema. One part is set, or a rule is added after the others, and all else is as it was; of the fields of
an object, those that the argument does not name. -/
inductive Changes (items : List Term) (s : Schema) : Member → Schema → Prop where
  | required (message : Option String) : Changes items s .required { s with isRequired := true, requiredMessage := message }
  | optional : Changes items s .optional { s with isRequired := false, requiredMessage := none }
  | nullable (flag : Bool) : Changes items s .nullable { s with isNullable := flag }
  | label (text : String) : Changes items s .label { s with labelText := some text }
  | oneOf (set : Membership) : Changes items s .oneOf { s with oneOfSet := some set }
  | notOneOf (set : Membership) : Changes items s .notOneOf { s with notOneOfSet := some set }
  | shape {known fields : Mapping Schema} {named : List (String × Term)} (object : s.kind = .object known)
      (argument : items = [.shape named]) (kept : ∀ key, key ∉ Mapping.keys named → fields.get? key = known.get? key)
      (given : ∀ key ∈ Mapping.keys named,
        ∃ term field, (key, term) ∈ named ∧ term.Describes field ∧ fields.get? key = some field)
      (ordered : known.Ordered → fields.Ordered) : Changes items s .shape { s with kind := .object fields }
  | of {known : Option Schema} (array : s.kind = .array known) (element : Schema) :
      Changes items s .of { s with kind := .array (some element) }
  | rule {member : Member} (adds : member.addsRule = true) (r : Rule) : Changes items s member { s with rules := s.rules ++ [r] }

variable {member : Member} {s : Schema}

/-- Fields that an argument describes are added to those of an object, and take the place of those under the same keys. -/
theorem changes_shape {known : Mapping Schema} (object : s.kind = .object known) {named : List (String × Term)}
    {fields : List (String × Schema)} (h : FieldsDescribe named fields) : Changes [.shape named] s .shape (s.shape fields) := by
  have hshape : s.shape fields = { s with kind := .object (Mapping.insertAll known fields) } := by
    unfold Schema.shape
    rw [object]
  rw [hshape]
  refine .shape object rfl (fun key hkey => ?_) (fun key hkey => ?_) fun ordered => ordered.insertAll fields
  · exact Mapping.get?_insertAll_of_notMem known (h.keys_eq ▸ hkey)
  · obtain ⟨field, hmem, hget⟩ := Mapping.exists_get?_insertAll known (h.keys_eq ▸ hkey)
    obtain ⟨term, hterm, hdescribes⟩ := h.exists_of_mem hmem
    exact ⟨term, field, hterm, hdescribes, hget⟩

/-- The refinement that a member makes of its arguments changes what the member is named for. -/
theorem changes_apply {args : Arguments} {r : Refinement} (exposed : member.exposedBy s.tag = true)
    (h : member.refinement s.tag args = .ok r) : member.Changes args.items s (r.apply s) := by
  have makes := makes_of_refinement h
  have fits := makes.fits exposed
  cases makes with
  | required message => exact .required message
  | optional => exact .optional
  | nullable flag => exact .nullable flag
  | label text => exact .label text
  | oneOf values message => exact .oneOf ⟨values, message⟩
  | notOneOf values message => exact .notOneOf ⟨values, message⟩
  | rule adds r => exact .rule adds r
  | shape fields =>
    obtain ⟨known, object⟩ := Schema.exists_fields fits
    obtain ⟨named, schemas, hitems, hdescribe, heq⟩ := shape_of_refinement h
    cases heq
    rw [hitems]
    exact changes_shape object hdescribe
  | of element =>
    obtain ⟨known, array⟩ := Schema.exists_element fits
    exact .of array element

/-- A call of a member that succeeds gives a schema of the same kind, in which only what the member is named for has changed. -/
theorem call?_changes {name : String} {items : List Term} {t : Term} (h : call? s name items = some (.ok t)) :
    ∃ member s', named? s.tag name = some member ∧ t = .schema s' ∧ s'.tag = s.tag ∧ member.Changes items s s' := by
  obtain ⟨member, hm, ht⟩ := Option.map_eq_some_iff.mp h
  obtain ⟨exposed, -⟩ := exposedBy_of_named? hm
  obtain ⟨r, hr, rfl⟩ := refinement_of_build ht
  exact ⟨member, r.apply s, hm, rfl, Refinement.tag_apply ((makes_of_refinement hr).fits exposed), changes_apply exposed hr⟩

namespace FramesWitness

/-- A person with an age and a home, who has to be there and may be null. -/
def person : Schema :=
  ⟨.object [("age", .ofTag .number), ("home", .ofTag .string)], true, some "who?", true, some "Person",
    [.predicate "adult" "Must be of age" fun _ => true], some ⟨[.reference ⟨"owner"⟩], none⟩, none⟩

/-- A home with a city, and a name. -/
def named : List (String × Term) :=
  [("home", .shape [("city", .schema (.ofTag .string))]), ("name", .schema (.ofTag .string))]

/-- The fields of the person with these. -/
def fields : Mapping Schema :=
  [("age", .ofTag .number), ("home", .objectOf [("city", .ofTag .string)]), ("name", .ofTag .string)]

/-- The person keeps the age, and all that is no field. -/
theorem person_with_home :
    call? person "shape" [.shape named] = some (.ok (.schema { person with kind := .object fields })) ∧
      Member.shape.Changes [.shape named] person { person with kind := .object fields } := by
  have h : call? person "shape" [.shape named] = some (.ok (.schema { person with kind := .object fields })) := rfl
  obtain ⟨member, s', hm, ht, -, hchanges⟩ := call?_changes h
  cases ht
  cases hm
  exact ⟨h, hchanges⟩

end FramesWitness

end Member

end Schemata
