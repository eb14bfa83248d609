import Schemata.Library.Member
import Schemata.Library.Root
import Schemata.Proofs.Library.FieldSchemas
import Schemata.Proofs.Schema.WellFormed

/-!
# Builders give well-formed terms

A builder of the library that is called with well-formed arguments gives a well-formed term (`Root.build_wellFormed`,
`Member.build_wellFormed`). A member adds a rule only to schemas of the kind that exposes it, and none of them changes the kind, so
the rules of a schema stay rules for its kind.
-/

namespace Schemata

/-! ## Fields -/

mutual

/-- What a well-formed term describes is a well-formed schema. -/
theorem Term.Describes.wellFormed {t : Term} {s : Schema} : t.Describes s → t.WellFormed → s.WellFormed
  | .schema _, .schema h => h
  | .shape described, .shape h => (Schema.wellFormed_ofTag .object).shape rfl (described.wellFormed h)

/-- So are the schemas that well-formed fields describe. -/
theorem FieldsDescribe.wellFormed {fields : List (String × Term)} {schemas : List (String × Schema)} :
    FieldsDescribe fields schemas → (∀ field ∈ fields, field.2.WellFormed) → ∀ field ∈ schemas, field.2.WellFormed
  | .nil, _ => nofun
  | .cons head tail, h => fun field hm => by
    rcases List.mem_cons.mp hm with rfl | hm
    · exact head.wellFormed (h _ List.mem_cons_self)
    · exact tail.wellFormed (fun field hf => h field (List.mem_cons_of_mem _ hf)) field hm

end

namespace Arguments

variable {args : Arguments}

/-! ## Arguments -/

/-- Every argument is well-formed. -/
def WellFormed (args : Arguments) : Prop :=
  ∀ item ∈ args.items, item.WellFormed

/-- An argument is one of the arguments. -/
theorem WellFormed.get? (h : args.WellFormed) {position : Nat} {t : Term} (ht : args.get? position = some t) : t.WellFormed :=
  h t (List.mem_of_getElem? ht)

/-- The fields of a shape have well-formed schemas. -/
theorem WellFormed.shape (h : args.WellFormed) {position : Nat} {fields : Mapping Schema}
    (hs : args.shape position = .ok fields) : ∀ field ∈ fields, field.2.WellFormed := by
  unfold Arguments.shape at hs
  split at hs
  · rename_i terms ht
    have hdescribe := (args.fieldSchemas_eq_ok_iff position terms fields).mp hs
    cases h.get? ht with
    | shape hterms => exact hdescribe.wellFormed hterms
  · cases hs

/-- A schema among the arguments is well-formed, and so is the one that a shape becomes. -/
theorem WellFormed.schema (h : args.WellFormed) {position : Nat} {s : Schema} (hs : args.schema position = .ok s) :
    s.WellFormed := by
  unfold Arguments.schema at hs
  split at hs
  · rename_i s' ht
    cases hs
    cases h.get? ht with
    | schema hs' => exact hs'
  · rename_i terms ht
    obtain ⟨schemas, hschemas, hs⟩ := bind_eq_ok_iff.mp hs
    cases hs
    have hdescribe := (args.fieldSchemas_eq_ok_iff position terms schemas).mp hschemas
    cases h.get? ht with
    | shape hterms => exact (Schema.wellFormed_ofTag .object).shape rfl (hdescribe.wellFormed hterms)
  · cases hs

/-- A well-formed term stands for a well-formed entry of a set, if for any. -/
theorem entry_wellFormed {position : Nat} {t : Term} {entry : Allowed} (ht : t.WellFormed)
    (he : args.entry position t = .ok entry) : entry.WellFormed := by
  cases ht with
  | literal h =>
    cases he
    exact h
  | reference h =>
    cases he
    exact h
  | _ => cases he

/-- The entries of a set are well-formed. -/
theorem WellFormed.allowedUntil (h : args.WellFormed) {position stop : Nat} {values : List Allowed}
    (hv : args.allowedUntil position stop = .ok values) : ∀ entry ∈ values, entry.WellFormed := by
  unfold Arguments.allowedUntil at hv
  split at hv
  · rename_i items ht
    cases h.get? ht with
    | list hitems => exact forall_of_mapM_eq_ok hv fun t hm entry => entry_wellFormed (hitems t hm)
  · split at hv
    · refine forall_of_mapM_eq_ok hv fun t hm entry => entry_wellFormed (h t ?_)
      exact List.mem_of_mem_take (List.mem_of_mem_drop hm)
    · cases hv
      exact nofun
  · cases hv

end Arguments

/-! ## Root builders -/

/-- A root builder gives a well-formed term. -/
theorem Root.build_wellFormed (root : Root) {args : Arguments} (h : args.WellFormed) {t : Term}
    (ht : root.build args = .ok t) : t.WellFormed := by
  have plain : ∀ tag, Root.plain tag args = .ok t → t.WellFormed := by
    intro tag ht
    obtain ⟨-, -, ht⟩ := bind_eq_ok_iff.mp ht
    cases ht
    exact .schema (Schema.wellFormed_ofTag tag)
  cases root with
  | mixed => exact plain _ ht
  | string => exact plain _ ht
  | number => exact plain _ ht
  | boolean => exact plain _ ht
  | object =>
    obtain ⟨-, -, ht⟩ := bind_eq_ok_iff.mp ht
    split at ht
    · cases ht
      exact .schema (Schema.wellFormed_ofTag .object)
    · obtain ⟨fields, hf, ht⟩ := bind_eq_ok_iff.mp ht
      cases ht
      exact .schema ((Schema.wellFormed_ofTag .object).shape rfl (h.shape hf))
  | array =>
    obtain ⟨-, -, ht⟩ := bind_eq_ok_iff.mp ht
    split at ht
    · cases ht
      exact .schema (Schema.wellFormed_ofTag .array)
    · obtain ⟨element, he, ht⟩ := bind_eq_ok_iff.mp ht
      cases ht
      exact .schema ((Schema.wellFormed_ofTag .array).of rfl (h.schema he))
  | ref =>
    obtain ⟨-, -, ht⟩ := bind_eq_ok_iff.mp ht
    obtain ⟨path, -, ht⟩ := bind_eq_ok_iff.mp ht
    split at ht
    · cases ht
    · rename_i hne
      cases ht
      exact .reference hne

namespace Member

variable {s s' : Schema} {args : Arguments}

/-! ## Member builders -/

/-- A member that schemas of a kind have under a name is exposed by the kind, and has that name. -/
theorem exposedBy_of_named? {tag : Tag} {name : String} {member : Member} (h : named? tag name = some member) :
    member.exposedBy tag = true ∧ member.name = name :=
  ⟨(List.mem_filter.mp (List.mem_of_find?_eq_some h)).2, by simpa using List.find?_some h⟩

/-- The entries of a set are well-formed. -/
theorem membership_wellFormed (h : args.WellFormed) {values : List Allowed} {message : Option String}
    (hm : membership args = .ok (values, message)) : ∀ entry ∈ values, entry.WellFormed := by
  have plain : (do return (← args.allowed 0, none)) = Except.ok (values, message) → ∀ entry ∈ values, entry.WellFormed := by
    intro hm
    obtain ⟨values', hv, hm⟩ := bind_eq_ok_iff.mp hm
    cases hm
    exact h.allowedUntil hv
  unfold membership at hm
  split at hm
  · cases hm
  · obtain ⟨-, -, hm⟩ := bind_eq_ok_iff.mp hm
    obtain ⟨values', hv, hm⟩ := bind_eq_ok_iff.mp hm
    obtain ⟨message', -, hm⟩ := bind_eq_ok_iff.mp hm
    cases hm
    exact h.allowedUntil hv
  · dsimp only at hm
    split at hm
    · obtain ⟨values', hv, hm⟩ := bind_eq_ok_iff.mp hm
      obtain ⟨message', -, hm⟩ := bind_eq_ok_iff.mp hm
      cases hm
      exact h.allowedUntil hv
    · exact plain hm
  · exact plain hm

/-- A rule with a bound is added with a message or none. -/
theorem bounded_wellFormed (hs : s.WellFormed) {rule : Except BuildError Rule}
    (hr : ∀ r, rule = .ok r → r.Constrains s.tag) (h : bounded s args rule = .ok s') : s'.WellFormed := by
  obtain ⟨-, -, h⟩ := bind_eq_ok_iff.mp h
  obtain ⟨message, -, h⟩ := bind_eq_ok_iff.mp h
  obtain ⟨r, hrule, h⟩ := bind_eq_ok_iff.mp h
  cases h
  exact hs.ruleWithMessage (hr r hrule) message

/-- So is a rule that takes one argument. -/
theorem ruleWithArgument_wellFormed (hs : s.WellFormed) {rule : Except BuildError Rule}
    (hr : ∀ r, rule = .ok r → r.Constrains s.tag) (h : ruleWithArgument s args rule = .ok s') : s'.WellFormed := by
  obtain ⟨-, -, h⟩ := bind_eq_ok_iff.mp h
  obtain ⟨r, hrule, h⟩ := bind_eq_ok_iff.mp h
  obtain ⟨message, -, h⟩ := bind_eq_ok_iff.mp h
  cases h
  exact hs.ruleWithMessage (hr r hrule) message

/-- So is a rule that takes none. -/
theorem plainRule_wellFormed (hs : s.WellFormed) {r : Rule} (hr : r.Constrains s.tag) (h : plainRule s args r = .ok s') :
    s'.WellFormed := by
  obtain ⟨-, -, h⟩ := bind_eq_ok_iff.mp h
  obtain ⟨message, -, h⟩ := bind_eq_ok_iff.mp h
  cases h
  exact hs.ruleWithMessage hr message

/-- The rule of a least size is for the kind it is made for, when that kind has sizes. -/
theorem minRule_constrains {tag : Tag} (ht : Member.min.exposedBy tag = true) {r : Rule} (h : minRule tag args = .ok r) :
    r.Constrains tag := by
  cases tag with
  | number | string | array =>
    obtain ⟨bound, -, h⟩ := bind_eq_ok_iff.mp h
    cases h
    rfl
  | _ => cases ht

/-- So is the rule of a greatest size. -/
theorem maxRule_constrains {tag : Tag} (ht : Member.max.exposedBy tag = true) {r : Rule} (h : maxRule tag args = .ok r) :
    r.Constrains tag := by
  cases tag with
  | number | string | array =>
    obtain ⟨bound, -, h⟩ := bind_eq_ok_iff.mp h
    cases h
    rfl
  | _ => cases ht

/-- So is the rule of an exact size. -/
theorem lengthRule_constrains {tag : Tag} (ht : Member.length.exposedBy tag = true) {r : Rule}
    (h : lengthRule tag args = .ok r) : r.Constrains tag := by
  cases tag with
  | string | array =>
    obtain ⟨bound, -, h⟩ := bind_eq_ok_iff.mp h
    cases h
    rfl
  | _ => cases ht

/-- A member of a well-formed schema gives a well-formed schema. -/
theorem build_wellFormed (member : Member) (exposed : member.exposedBy s.tag = true) (hs : s.WellFormed)
    (hargs : args.WellFormed) (h : member.build s args = .ok s') : s'.WellFormed := by
  -- A member of one kind is exposed by that kind, which is the kind that its rule constrains.
  have only : ∀ {tag : Tag}, (s.tag == tag) = true → s.tag = tag := eq_of_beq
  cases member with
  | required | nullable =>
    obtain ⟨-, -, h⟩ := bind_eq_ok_iff.mp h
    obtain ⟨argument, -, h⟩ := bind_eq_ok_iff.mp h
    cases h
    exact hs.of_eq rfl rfl rfl rfl
  | label =>
    obtain ⟨-, -, h⟩ := bind_eq_ok_iff.mp h
    dsimp only at h
    split at h
    · cases h
      exact hs.of_eq rfl rfl rfl rfl
    · obtain ⟨text, -, h⟩ := bind_eq_ok_iff.mp h
      cases h
      exact hs.of_eq rfl rfl rfl rfl
  | optional =>
    obtain ⟨-, -, h⟩ := bind_eq_ok_iff.mp h
    cases h
    exact hs.of_eq rfl rfl rfl rfl
  | oneOf =>
    obtain ⟨⟨values, message⟩, hm, h⟩ := bind_eq_ok_iff.mp h
    cases h
    exact hs.oneOf (membership_wellFormed hargs hm) message
  | notOneOf =>
    obtain ⟨⟨values, message⟩, hm, h⟩ := bind_eq_ok_iff.mp h
    cases h
    exact hs.notOneOf (membership_wellFormed hargs hm) message
  | min => exact bounded_wellFormed hs (fun r => minRule_constrains exposed) h
  | max => exact bounded_wellFormed hs (fun r => maxRule_constrains exposed) h
  | length => exact bounded_wellFormed hs (fun r => lengthRule_constrains exposed) h
  | moreThan | lessThan | matching =>
    refine ruleWithArgument_wellFormed hs (fun r hr => ?_) h
    obtain ⟨argument, -, hr⟩ := bind_eq_ok_iff.mp hr
    cases hr
    exact only exposed
  | positive | negative | integer | email | url | lowercase | uppercase =>
    refine plainRule_wellFormed hs ?_ h
    exact only exposed
  | shape =>
    obtain ⟨-, -, h⟩ := bind_eq_ok_iff.mp h
    obtain ⟨fields, hf, h⟩ := bind_eq_ok_iff.mp h
    cases h
    exact hs.shape (only exposed) (hargs.shape hf)
  | of =>
    obtain ⟨-, -, h⟩ := bind_eq_ok_iff.mp h
    obtain ⟨element, he, h⟩ := bind_eq_ok_iff.mp h
    cases h
    exact hs.of (only exposed) (hargs.schema he)

end Member

end Schemata
