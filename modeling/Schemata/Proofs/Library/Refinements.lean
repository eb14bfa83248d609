import Schemata.Proofs.Library.WellFormed
import Schemata.Proofs.Schema.Refinement

/-!
# Members are refinements

A member makes a refinement of its arguments, and of the schema it is called on it asks for nothing but the kind
(`Member.build_eq`). What the refinement changes is settled by the member (`Member.Makes`), except for the fields of an object, which
its argument names.
-/

namespace Schemata.Member

/-! ## The refinement that a member makes -/

/-- The refinement that adds a rule with a bound: the message is read first. -/
def boundedRefinement (args : Arguments) (rule : Except BuildError Rule) : Except BuildError Refinement := do
  args.atMost 2
  let message ← args.message 1
  return .rule ((← rule).withMessage? message)

/-- The refinement that adds a rule with one argument: the argument is read first. -/
def argumentRefinement (args : Arguments) (rule : Except BuildError Rule) : Except BuildError Refinement := do
  args.atMost 2
  let rule ← rule
  return .rule (rule.withMessage? (← args.message 1))

/-- The refinement that adds a rule without arguments. -/
def plainRefinement (args : Arguments) (rule : Rule) : Except BuildError Refinement := do
  args.atMost 1
  return .rule (rule.withMessage? (← args.message 0))

/-- The refinement that a member makes of its arguments, for schemas of a kind. -/
def refinement (member : Member) (tag : Tag) (args : Arguments) : Except BuildError Refinement :=
  match member with
  | .required => do
    args.atMost 1
    return .required (← args.message 0)
  | .optional => do
    args.atMost 0
    return .optional
  | .nullable => do
    args.atMost 1
    return .nullable (← args.flag 0 true)
  | .label => do
    args.atMost 1
    return .label (← if args.items.isEmpty then .ok "" else args.string 0)
  | .oneOf => do
    let (values, message) ← membership args
    return .oneOf values message
  | .notOneOf => do
    let (values, message) ← membership args
    return .notOneOf values message
  | .min => boundedRefinement args (minRule tag args)
  | .max => boundedRefinement args (maxRule tag args)
  | .length => boundedRefinement args (lengthRule tag args)
  | .moreThan => argumentRefinement args (return .moreThan (← args.numberOr 0 .zero))
  | .lessThan => argumentRefinement args (return .lessThan (← args.numberOr 0 .zero))
  | .positive => plainRefinement args (.moreThan .zero)
  | .negative => plainRefinement args (.lessThan .zero)
  | .integer => plainRefinement args .integer
  | .matching => argumentRefinement args (return .matching (← args.pattern 0))
  | .email => plainRefinement args .email
  | .url => plainRefinement args .url
  | .lowercase => plainRefinement args .lowercase
  | .uppercase => plainRefinement args .uppercase
  | .shape => do
    args.atMost 1
    return .shape (← args.shape 0)
  | .of => do
    args.atMost 1
    return .of (← args.schema 0)

/-- Building on a schema is making a refinement, and then the refined schema. -/
theorem build_eq (member : Member) (s : Schema) (args : Arguments) :
    member.build s args = (Refinement.apply s) <$> member.refinement s.tag args := by
  have hbounded : ∀ rule, bounded s args rule = (Refinement.apply s) <$> boundedRefinement args rule := by
    intro rule
    simp only [bounded, boundedRefinement, map_bind, map_pure]
    rfl
  have hargument : ∀ rule, ruleWithArgument s args rule = (Refinement.apply s) <$> argumentRefinement args rule := by
    intro rule
    simp only [ruleWithArgument, argumentRefinement, map_bind, map_pure]
    rfl
  have hplain : ∀ rule, plainRule s args rule = (Refinement.apply s) <$> plainRefinement args rule := by
    intro rule
    simp only [plainRule, plainRefinement, map_bind, map_pure]
    rfl
  cases member with
  | min | max | length => exact hbounded _
  | moreThan | lessThan | matching => exact hargument _
  | positive | negative | integer | email | url | lowercase | uppercase => exact hplain _
  | label =>
    simp only [build, refinement, map_bind, apply_ite (Refinement.apply s <$> ·)]
    rfl
  | _ =>
    simp only [build, refinement, map_bind, map_pure]
    rfl

/-! ## What a member can make -/

/-- A member that adds a rule. -/
def addsRule : Member → Bool
  | .min | .max | .length | .moreThan | .lessThan | .positive | .negative | .integer | .matching | .email | .url | .lowercase
  | .uppercase => true
  | _ => false

/-- The refinements that a member can make. -/
inductive Makes : Member → Refinement → Prop where
  | required (message : Option String) : Makes .required (.required message)
  | optional : Makes .optional .optional
  | nullable (flag : Bool) : Makes .nullable (.nullable flag)
  | label (text : String) : Makes .label (.label text)
  | oneOf (values : List Allowed) (message : Option String) : Makes .oneOf (.oneOf values message)
  | notOneOf (values : List Allowed) (message : Option String) : Makes .notOneOf (.notOneOf values message)
  | rule {member : Member} (adds : member.addsRule = true) (r : Rule) : Makes member (.rule r)
  | shape (fields : Mapping Schema) : Makes .shape (.shape fields)
  | of (element : Schema) : Makes .of (.of element)

variable {member : Member} {tag : Tag} {args : Arguments} {r : Refinement}

/-- A member makes nothing else of its arguments. -/
theorem makes_of_refinement (h : member.refinement tag args = .ok r) : member.Makes r := by
  have hbounded : ∀ {rule}, boundedRefinement args rule = .ok r → ∃ rule, r = .rule rule := by
    intro rule h
    obtain ⟨-, -, h⟩ := bind_eq_ok_iff.mp h
    obtain ⟨message, -, h⟩ := bind_eq_ok_iff.mp h
    obtain ⟨made, -, h⟩ := bind_eq_ok_iff.mp h
    exact ⟨_, (Except.ok.inj h).symm⟩
  have hargument : ∀ {rule}, argumentRefinement args rule = .ok r → ∃ rule, r = .rule rule := by
    intro rule h
    obtain ⟨-, -, h⟩ := bind_eq_ok_iff.mp h
    obtain ⟨made, -, h⟩ := bind_eq_ok_iff.mp h
    obtain ⟨message, -, h⟩ := bind_eq_ok_iff.mp h
    exact ⟨_, (Except.ok.inj h).symm⟩
  have hplain : ∀ {rule}, plainRefinement args rule = .ok r → ∃ rule, r = .rule rule := by
    intro rule h
    obtain ⟨-, -, h⟩ := bind_eq_ok_iff.mp h
    obtain ⟨message, -, h⟩ := bind_eq_ok_iff.mp h
    exact ⟨_, (Except.ok.inj h).symm⟩
  cases member with
  | required | nullable | shape | of =>
    obtain ⟨-, -, h⟩ := bind_eq_ok_iff.mp h
    obtain ⟨argument, -, h⟩ := bind_eq_ok_iff.mp h
    cases h
    constructor
  | optional =>
    obtain ⟨-, -, h⟩ := bind_eq_ok_iff.mp h
    cases h
    constructor
  | label =>
    obtain ⟨-, -, h⟩ := bind_eq_ok_iff.mp h
    dsimp only at h
    split at h
    · cases h
      constructor
    · obtain ⟨text, -, h⟩ := bind_eq_ok_iff.mp h
      cases h
      constructor
  | oneOf | notOneOf =>
    obtain ⟨⟨values, message⟩, -, h⟩ := bind_eq_ok_iff.mp h
    cases h
    constructor
  | min | max | length =>
    obtain ⟨rule, rfl⟩ := hbounded h
    exact .rule rfl rule
  | moreThan | lessThan | matching =>
    obtain ⟨rule, rfl⟩ := hargument h
    exact .rule rfl rule
  | positive | negative | integer | email | url | lowercase | uppercase =>
    obtain ⟨rule, rfl⟩ := hplain h
    exact .rule rfl rule

/-- A member that schemas of a kind expose makes refinements of such schemas. -/
theorem Makes.fits (h : member.Makes r) (exposed : member.exposedBy tag = true) : r.Fits tag := by
  cases h with
  | shape => exact eq_of_beq exposed
  | of => exact eq_of_beq exposed
  | _ => trivial

/-- What a member changes of a schema, the fields of an object aside. -/
def target? : Member → Option Target
  | .required | .optional => some .presence
  | .nullable => some .nullability
  | .label => some .label
  | .oneOf => some .oneOf
  | .notOneOf => some .notOneOf
  | .of => some .element
  | _ => none

/-- What a member changes does not depend on its arguments, the fields of an object aside. -/
theorem Makes.targets (h : member.Makes r) (hs : member ≠ .shape) : r.targets = member.target?.toList := by
  cases h with
  | rule adds r => cases member <;> first | rfl | cases adds
  | shape fields => exact (hs rfl).elim
  | _ => rfl

/-- Of a member that is not the one of shapes, different refinements make different schemas. -/
theorem Makes.eq_of_apply_eq {r' : Refinement} {s : Schema} (h : member.Makes r) (h' : member.Makes r') (hs : member ≠ .shape)
    (he : r.apply s = r'.apply s) : r = r' := by
  cases h with
  | required message =>
    cases h' with
    | required message' => exact congrArg Refinement.required (congrArg Schema.requiredMessage he)
    | rule adds => cases adds
  | optional =>
    cases h' with
    | optional => rfl
    | rule adds => cases adds
  | nullable flag =>
    cases h' with
    | nullable flag' => exact congrArg Refinement.nullable (congrArg Schema.isNullable he)
    | rule adds => cases adds
  | label text =>
    cases h' with
    | label text' => exact congrArg Refinement.label (Option.some.inj (congrArg Schema.labelText he))
    | rule adds => cases adds
  | oneOf values message =>
    cases h' with
    | oneOf values' message' =>
      obtain ⟨rfl, rfl⟩ := Membership.mk.inj (Option.some.inj (congrArg Schema.oneOfSet he))
      rfl
    | rule adds => cases adds
  | notOneOf values message =>
    cases h' with
    | notOneOf values' message' =>
      obtain ⟨rfl, rfl⟩ := Membership.mk.inj (Option.some.inj (congrArg Schema.notOneOfSet he))
      rfl
    | rule adds => cases adds
  | of element =>
    cases h' with
    | of element' =>
      have hkind : (Kind.array (some element) : Kind Schema) = .array (some element') := congrArg Schema.kind he
      cases hkind
      rfl
    | rule adds => cases adds
  | shape fields => exact (hs rfl).elim
  | rule adds rule =>
    cases h' with
    | rule _ rule' =>
      have hrules : s.rules ++ [rule] = s.rules ++ [rule'] := congrArg Schema.rules he
      exact congrArg Refinement.rule (List.singleton_inj.mp (List.append_cancel_left hrules))
    | _ => cases adds

/-- What a member gives is a schema refined by what it makes of its arguments. -/
theorem refinement_of_build {s : Schema} {t : Term} (h : (member.build s args).map Term.schema = .ok t) :
    ∃ r, member.refinement s.tag args = .ok r ∧ t = .schema (r.apply s) := by
  obtain ⟨_, hbuild, rfl⟩ := map_eq_ok_iff.mp h
  rw [build_eq] at hbuild
  obtain ⟨r, hr, rfl⟩ := map_eq_ok_iff.mp hbuild
  exact ⟨r, hr, rfl⟩

/-- A member gives the same schema for other arguments exactly where it makes the same refinement of them. -/
theorem build_eq_refined_iff {s : Schema} (h : member.refinement s.tag args = .ok r) (hs : member ≠ .shape) (args' : Arguments) :
    (member.build s args').map Term.schema = .ok (.schema (r.apply s)) ↔ member.refinement s.tag args' = .ok r := by
  constructor
  · intro h'
    obtain ⟨r', hr', ht⟩ := refinement_of_build h'
    rw [hr', (makes_of_refinement h).eq_of_apply_eq (makes_of_refinement hr') hs (Term.schema.inj ht)]
  · intro h'
    rw [build_eq, h']
    rfl

/-- The member of shapes adds the fields that its one argument describes. -/
theorem shape_of_refinement (h : Member.shape.refinement tag args = .ok r) :
    ∃ terms schemas, args.items = [.shape terms] ∧ FieldsDescribe terms schemas ∧ r = .shape schemas := by
  obtain ⟨_, hmost, h⟩ := bind_eq_ok_iff.mp h
  obtain ⟨schemas, hschemas, h⟩ := bind_eq_ok_iff.mp h
  cases h
  obtain ⟨name, items⟩ := args
  unfold Arguments.shape at hschemas
  split at hschemas
  · rename_i terms hterms
    refine ⟨terms, schemas, ?_, (Arguments.fieldSchemas_eq_ok_iff _ 0 terms schemas).mp hschemas, rfl⟩
    -- There is a first argument, and no second.
    rcases items with _ | ⟨first, _ | ⟨second, more⟩⟩
    · cases hterms
    · cases hterms
      rfl
    · cases hmost
  · cases hschemas

end Schemata.Member
