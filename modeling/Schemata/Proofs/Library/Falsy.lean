import Schemata.Proofs.Library.Membership
import Schemata.Proofs.Library.Refinements

/-!
# Arguments that count as nothing

What members make of null, false, zeros and empty texts, and what they make of no arguments. A member that accepts such literals makes
the same refinement without them exactly when it heeds none of them (`Member.refinement_of_falsy`): a set heeds every entry, a truth
value every false, a bound on numbers the negative zero, and whatever takes a message the empty one.
-/

namespace Schemata

/-! ## Zeros -/

namespace Binary64

/-- The value zero is written by two patterns, one for each sign. -/
theorem code_eq_zero_of_same_zero {x : Binary64} (h : x.same zero = true) : x.code = 0 := by
  have hunits : x.units = 0 := (same_iff x zero).mp h
  have hmagnitude : x.magnitude = 0 := by
    unfold units at hunits
    split at hunits <;> omega
  have hsignificand : x.significand = 0 :=
    (Nat.mul_eq_zero.mp hmagnitude).resolve_right (Nat.ne_of_gt (Nat.two_pow_pos x.shift))
  unfold significand at hsignificand
  split at hsignificand
  · exact hsignificand
  · omega

theorem one_pos : 0 < one := by decide +kernel

/-- A whole number other than zero is not rounded to zero. -/
theorem eq_zero_of_ofInt_same_zero {n : Int} {h : n.natAbs ≤ 2 ^ 64} (hz : (ofInt n h).same zero = true) : n = 0 := by
  by_contra hne
  have hcode : nearestCode (n.natAbs * one) 1 = 0 := code_eq_zero_of_same_zero hz
  have hpos : 0 < n.natAbs := Int.natAbs_pos.mpr hne
  -- The number has at least as many units as one has, and so a pattern with a shift in it.
  have hle : one ≤ n.natAbs * one := Nat.le_mul_of_pos_left one hpos
  have hnum : n.natAbs * one ≠ 0 := Nat.ne_of_gt (Nat.lt_of_lt_of_le one_pos hle)
  have hlog : 1074 ≤ (n.natAbs * one).log2 := by
    rw [Nat.le_log2 hnum, ← one]
    exact hle
  rw [nearestCode, Nat.div_one] at hcode
  omega

end Binary64

/-- A zero is the count zero. -/
theorem Arguments.countOf?_of_same_zero {n : Number} (h : n.toBinary64.same .zero = true) : countOf? n = some 0 := by
  cases n with
  | whole n inRange =>
    have hn : n = 0 := Binary64.eq_zero_of_ofInt_same_zero (h := by omega) h
    subst hn
    rfl
  | real x =>
    have hunits : x.units = 0 := (Binary64.same_iff x .zero).mp h
    have hwhole : x.isWhole = true := by
      rw [Binary64.isWhole, hunits, Int.zero_emod]
      rfl
    have hint : x.toInt? = some 0 := by rw [Binary64.toInt?, if_pos hwhole, hunits, Int.zero_ediv]
    rw [countOf?, hint]
    rfl

/-! ## Literals that count as nothing -/

/-- The literals that count as nothing. -/
inductive Json.IsFalsy : Json → Prop where
  | null : IsFalsy .null
  | false : IsFalsy (.bool false)
  | zero {n : Number} (h : n.toBinary64.same .zero = true) : IsFalsy (.num n)
  | empty : IsFalsy (.str "")

theorem Json.IsFalsy.of_literal {v : Json} (h : (Term.literal v).isFalsy = true) : v.IsFalsy := by
  cases v with
  | null => exact .null
  | bool b =>
    cases b with
    | false => exact .false
    | true => cases h
  | num n => exact .zero h
  | str s =>
    rw [String.isEmpty_iff.mp h]
    exact .empty
  | arr items => cases h
  | obj members => cases h

theorem Json.IsFalsy.isFalsy {v : Json} (h : v.IsFalsy) : (Term.literal v).isFalsy = true := by
  cases h with
  | zero h => exact h
  | _ => rfl

/-- A rule without a message of its own. -/
def Rule.isBare : Rule → Bool
  | .withMessage _ _ => false
  | _ => true

/-- Such a rule is no rule with a message. -/
theorem Rule.ne_withMessage {rule : Rule} (h : rule.isBare = true) (inner : Rule) (message : String) :
    rule ≠ .withMessage inner message := by
  rintro rfl
  cases h

namespace Member

/-- A builder of sets. -/
def isSet : Member → Bool
  | .oneOf | .notOneOf => true
  | _ => false

/-- A member, of schemas of a kind, heeds a literal that counts as nothing: an entry of a set always, false where a truth value
stands, the negative zero where a number is bounded, and an empty text unless it is a label. -/
def Heeds (member : Member) (tag : Tag) : Json → Prop
  | .bool _ => member.isSet = true ∨ member = .nullable
  | .num n => member.isSet = true ∨ tag = .number ∧ n.toBinary64 ≠ .zero
  | .str _ => member ≠ .label
  | _ => member.isSet = true

variable {member : Member} {tag : Tag} {name : String} {vs : List Json} {r : Refinement}

/-! ## Messages -/

/-- The arguments that literals are. -/
def literals (name : String) (vs : List Json) : Arguments :=
  ⟨name, vs.map .literal⟩

/-- A literal that counts as nothing is no message or the empty one. -/
theorem message_of_falsy (position : Nat) {v : Json} (hv : v.IsFalsy) (hget : vs[position]? = some v) {message : Option String}
    (h : (literals name vs).message position = .ok message) :
    v = .null ∧ message = none ∨ v = .str "" ∧ message = some "" := by
  have harg : (literals name vs).get? position = some (.literal v) := by
    show (vs.map Term.literal)[position]? = _
    rw [List.getElem?_map, hget]
    rfl
  unfold Arguments.message at h
  rw [harg] at h
  cases hv with
  | null =>
    cases h
    exact Or.inl ⟨rfl, rfl⟩
  | empty =>
    cases h
    exact Or.inr ⟨rfl, rfl⟩
  | _ => cases h

/-- A rule that is added for an argument, with a message after it or none. -/
inductive Added (rule : Rule) : List Json → Refinement → Prop where
  | alone (v : Json) : Added rule [v] (.rule rule)
  | null (v : Json) : Added rule [v, .null] (.rule rule)
  | empty (v : Json) : Added rule [v, .str ""] (.rule (.withMessage rule ""))

/-- At most two literals that count as nothing are the argument of a rule and perhaps a message. -/
theorem added_of_message (nonempty : vs ≠ []) (falsy : ∀ v ∈ vs, v.IsFalsy) (most : (literals name vs).atMost 2 = .ok ())
    {message : Option String} (h : (literals name vs).message 1 = .ok message) (rule : Rule) :
    Added rule vs (.rule (rule.withMessage? message)) := by
  match vs with
  | [] => exact (nonempty rfl).elim
  | [v] =>
    cases h
    exact .alone v
  | [v, w] =>
    rcases message_of_falsy 1 (falsy w (by simp)) rfl h with ⟨rfl, rfl⟩ | ⟨rfl, rfl⟩
    · exact .null v
    · exact .empty v
  | _ :: _ :: _ :: _ => cases most

/-! ## Bounds -/

/-- A rule is made of the first of some literals, a zero, and is the rule of no literals unless it bounds numbers by the negative
zero. -/
def BoundFrom (tag : Tag) (vs : List Json) (rule absent : Rule) : Prop :=
  ∃ n more, vs = .num n :: more ∧ (rule = absent ↔ ¬(tag = .number ∧ n.toBinary64 ≠ .zero))

/-- The first argument is the first literal. -/
theorem literal?_literals_cons (v : Json) (more : List Json) : (literals name (v :: more)).literal? 0 = some v := rfl

/-- A number is the bound that it is. -/
theorem boundFrom_numberOr (make : Binary64 → Rule) (injective : Function.Injective make) (nonempty : vs ≠ []) {rule : Rule}
    (h : (do return make (← (literals name vs).numberOr 0 .zero)) = Except.ok rule) : BoundFrom .number vs rule (make .zero) := by
  obtain ⟨x, hx, h⟩ := bind_eq_ok_iff.mp h
  cases h
  match vs with
  | [] => exact (nonempty rfl).elim
  | v :: more =>
    have hnumber : (literals name (v :: more)).number 0 = .ok x := hx
    unfold Arguments.number at hnumber
    rw [literal?_literals_cons] at hnumber
    split at hnumber
    · rename_i n hn
      cases hn
      cases hnumber
      exact ⟨n, more, rfl, by simp [injective.eq_iff]⟩
    · cases hnumber

/-- A zero is the count zero. -/
theorem boundFrom_countOr (make : Nat → Rule) (hn : tag ≠ .number) (nonempty : vs ≠ []) (falsy : ∀ v ∈ vs, v.IsFalsy)
    {rule : Rule} (h : (do return make (← (literals name vs).countOr 0 0)) = Except.ok rule) : BoundFrom tag vs rule (make 0) := by
  obtain ⟨k, hk, h⟩ := bind_eq_ok_iff.mp h
  cases h
  match vs with
  | [] => exact (nonempty rfl).elim
  | v :: more =>
    have hcount : (literals name (v :: more)).count 0 = .ok k := hk
    unfold Arguments.count at hcount
    rw [literal?_literals_cons] at hcount
    split at hcount
    · rename_i n hv
      cases hv
      cases falsy _ List.mem_cons_self with
      | zero hz =>
        rw [Arguments.countOf?_of_same_zero hz] at hcount
        cases hcount
        exact ⟨n, more, rfl, by simp [hn]⟩
    · cases hcount

/-- A rule with a bound is the one without arguments where neither the bound nor a message is heeded. -/
theorem added_eq_iff (hset : member.isSet = false) (hlabel : member ≠ .label) {rule absent : Rule}
    (bare : absent.isBare = true) (bound : BoundFrom tag vs rule absent) (added : Added rule vs r) :
    r = .rule absent ↔ ∀ v ∈ vs, ¬member.Heeds tag v := by
  obtain ⟨n, more, rfl, hrule⟩ := bound
  have hnum : ¬member.Heeds tag (.num n) ↔ rule = absent := by simp [Heeds, hset, hrule]
  have hnull : ¬member.Heeds tag .null := by simp [Heeds, hset]
  have hempty : member.Heeds tag (.str "") := hlabel
  cases added with
  | alone => simp [hnum]
  | null => simp [hnum, hnull]
  | empty => simp [hempty, (Rule.ne_withMessage bare rule "").symm]

/-- With at most a message after it, such a rule makes the refinement that no arguments make where none of the literals is heeded. -/
theorem rule_eq_iff (hset : member.isSet = false) (hlabel : member ≠ .label) (nonempty : vs ≠ []) (falsy : ∀ v ∈ vs, v.IsFalsy)
    (most : (literals name vs).atMost 2 = .ok ()) {message : Option String}
    (hmessage : (literals name vs).message 1 = .ok message) {rule absent : Rule}
    (bare : absent.isBare = true) (bound : BoundFrom tag vs rule absent) :
    (Except.ok (.rule absent) : Except BuildError Refinement) = .ok (.rule (rule.withMessage? message)) ↔
      ∀ v ∈ vs, ¬member.Heeds tag v := by
  rw [← added_eq_iff hset hlabel bare bound (added_of_message nonempty falsy most hmessage rule), Except.ok.injEq, eq_comm]

/-- So it is where the message is read first. -/
theorem boundedRefinement_of_falsy (rule : Arguments → Except BuildError Rule) {absent : Rule} (hset : member.isSet = false)
    (hlabel : member ≠ .label) (nonempty : vs ≠ []) (falsy : ∀ v ∈ vs, v.IsFalsy)
    (bare : absent.isBare = true) (hnone : rule (literals name []) = .ok absent)
    (hsome : ∀ made, rule (literals name vs) = .ok made → BoundFrom tag vs made absent)
    (h : boundedRefinement (literals name vs) (rule (literals name vs)) = .ok r) :
    boundedRefinement (literals name []) (rule (literals name [])) = .ok r ↔ ∀ v ∈ vs, ¬member.Heeds tag v := by
  obtain ⟨_, hmost, h⟩ := bind_eq_ok_iff.mp h
  obtain ⟨message, hmessage, h⟩ := bind_eq_ok_iff.mp h
  obtain ⟨made, hmade, h⟩ := bind_eq_ok_iff.mp h
  cases h
  rw [hnone]
  exact rule_eq_iff hset hlabel nonempty falsy hmost hmessage bare (hsome made hmade)

/-- And where the argument is read first. -/
theorem argumentRefinement_of_falsy (rule : Arguments → Except BuildError Rule) {absent : Rule} (hset : member.isSet = false)
    (hlabel : member ≠ .label) (nonempty : vs ≠ []) (falsy : ∀ v ∈ vs, v.IsFalsy)
    (bare : absent.isBare = true) (hnone : rule (literals name []) = .ok absent)
    (hsome : ∀ made, rule (literals name vs) = .ok made → BoundFrom tag vs made absent)
    (h : argumentRefinement (literals name vs) (rule (literals name vs)) = .ok r) :
    argumentRefinement (literals name []) (rule (literals name [])) = .ok r ↔ ∀ v ∈ vs, ¬member.Heeds tag v := by
  obtain ⟨_, hmost, h⟩ := bind_eq_ok_iff.mp h
  obtain ⟨made, hmade, h⟩ := bind_eq_ok_iff.mp h
  obtain ⟨message, hmessage, h⟩ := bind_eq_ok_iff.mp h
  cases h
  rw [hnone]
  exact rule_eq_iff hset hlabel nonempty falsy hmost hmessage bare (hsome made hmade)

/-! ## The other members -/

/-- A message alone is heeded unless it is no message. -/
theorem message_eq_none_iff (hset : member.isSet = false) (hlabel : member ≠ .label) (nonempty : vs ≠ [])
    (falsy : ∀ v ∈ vs, v.IsFalsy) (most : (literals name vs).atMost 1 = .ok ()) {message : Option String}
    (h : (literals name vs).message 0 = .ok message) : message = none ↔ ∀ v ∈ vs, ¬member.Heeds tag v := by
  match vs with
  | [] => exact (nonempty rfl).elim
  | [v] =>
    have hnull : ¬member.Heeds tag .null := by simp [Heeds, hset]
    have hempty : member.Heeds tag (.str "") := hlabel
    rcases message_of_falsy 0 (falsy v (by simp)) rfl h with ⟨rfl, rfl⟩ | ⟨rfl, rfl⟩
    · simp [hnull]
    · simp [hempty]
  | _ :: _ :: _ => cases most

/-- A rule without arguments heeds a message. -/
theorem plainRefinement_of_falsy (hset : member.isSet = false) (hlabel : member ≠ .label) (nonempty : vs ≠ [])
    (falsy : ∀ v ∈ vs, v.IsFalsy) {rule : Rule} (bare : rule.isBare = true)
    (h : plainRefinement (literals name vs) rule = .ok r) :
    plainRefinement (literals name []) rule = .ok r ↔ ∀ v ∈ vs, ¬member.Heeds tag v := by
  obtain ⟨_, hmost, h⟩ := bind_eq_ok_iff.mp h
  obtain ⟨message, hmessage, h⟩ := bind_eq_ok_iff.mp h
  cases h
  rw [← message_eq_none_iff hset hlabel nonempty falsy hmost hmessage]
  show (Except.ok (.rule rule) : Except BuildError Refinement) = .ok (.rule (rule.withMessage? message)) ↔ _
  cases message with
  | none => simp [Rule.withMessage?]
  | some text => simp [Rule.withMessage?, Rule.ne_withMessage bare rule text]

/-- Every literal that counts as nothing is heeded by a set. -/
theorem heeds_of_isSet (hset : member.isSet = true) {v : Json} (hv : v.IsFalsy) : member.Heeds tag v := by
  cases hv with
  | empty =>
    rintro rfl
    cases hset
  | null => exact hset
  | _ => exact Or.inl hset

/-- No literal is a pattern, a shape or a schema. -/
theorem ne_of_refinement_literals (h : member.refinement tag (literals name vs) = .ok r) :
    member ≠ .matching ∧ member ≠ .shape ∧ member ≠ .of := by
  refine ⟨?_, ?_, ?_⟩
  · rintro rfl
    obtain ⟨-, -, h⟩ := bind_eq_ok_iff.mp h
    obtain ⟨rule, hrule, -⟩ := bind_eq_ok_iff.mp h
    obtain ⟨pattern, hpattern, -⟩ := bind_eq_ok_iff.mp hrule
    cases vs <;> cases hpattern
  · rintro rfl
    obtain ⟨-, -, h⟩ := bind_eq_ok_iff.mp h
    obtain ⟨fields, hfields, -⟩ := bind_eq_ok_iff.mp h
    cases vs <;> cases hfields
  · rintro rfl
    obtain ⟨-, -, h⟩ := bind_eq_ok_iff.mp h
    obtain ⟨element, helement, -⟩ := bind_eq_ok_iff.mp h
    cases vs <;> cases helement

/-- A member that accepts literals that count as nothing, one at least, makes the same refinement of no arguments exactly where it
heeds none of them. -/
theorem refinement_of_falsy (exposed : member.exposedBy tag = true) (nonempty : vs ≠ []) (falsy : ∀ v ∈ vs, v.IsFalsy)
    (h : member.refinement tag (literals name vs) = .ok r) :
    member.refinement tag (literals name []) = .ok r ↔ ∀ v ∈ vs, ¬member.Heeds tag v := by
  have only : ∀ {t : Tag}, (tag == t) = true → tag = t := eq_of_beq
  cases member with
  | required =>
    obtain ⟨_, hmost, h⟩ := bind_eq_ok_iff.mp h
    obtain ⟨message, hmessage, h⟩ := bind_eq_ok_iff.mp h
    cases h
    rw [← message_eq_none_iff rfl (by decide) nonempty falsy hmost hmessage]
    show (Except.ok (.required none) : Except BuildError Refinement) = .ok (.required message) ↔ _
    simp [eq_comm]
  | optional =>
    obtain ⟨_, hmost, -⟩ := bind_eq_ok_iff.mp h
    match vs with
    | [] => exact (nonempty rfl).elim
    | _ :: _ => cases hmost
  | nullable =>
    obtain ⟨_, hmost, h⟩ := bind_eq_ok_iff.mp h
    obtain ⟨flag, hflag, h⟩ := bind_eq_ok_iff.mp h
    cases h
    match vs with
    | [] => exact (nonempty rfl).elim
    | [v] =>
      show (Except.ok (.nullable true) : Except BuildError Refinement) = .ok (.nullable flag) ↔ _
      cases falsy v (by simp) with
      | null =>
        cases hflag
        simp [Heeds, isSet]
      | false =>
        cases hflag
        simp [Heeds]
      | _ => cases hflag
    | _ :: _ :: _ => cases hmost
  | label =>
    obtain ⟨_, hmost, h⟩ := bind_eq_ok_iff.mp h
    match vs with
    | [] => exact (nonempty rfl).elim
    | [v] =>
      obtain ⟨text, htext, h⟩ := bind_eq_ok_iff.mp h
      cases h
      cases falsy v (by simp) with
      | empty =>
        cases htext
        simp only [List.mem_singleton, forall_eq, Heeds, ne_eq, not_true_eq_false, not_false_eq_true, iff_true]
        rfl
      | _ => cases htext
    | _ :: _ :: _ => cases hmost
  | oneOf | notOneOf =>
    obtain ⟨v, hv⟩ := List.exists_mem_of_ne_nil vs nonempty
    exact ⟨nofun, fun unheeded => (unheeded v hv (heeds_of_isSet rfl (falsy v hv))).elim⟩
  | min =>
    cases tag with
    | number =>
      exact boundedRefinement_of_falsy (minRule .number) rfl (by decide) nonempty falsy rfl rfl
        (fun made => boundFrom_numberOr .min (fun _ _ => Rule.min.inj) nonempty) h
    | string =>
      exact boundedRefinement_of_falsy (minRule .string) rfl (by decide) nonempty falsy rfl rfl
        (fun made => boundFrom_countOr .minLength (by decide) nonempty falsy) h
    | array =>
      exact boundedRefinement_of_falsy (minRule .array) rfl (by decide) nonempty falsy rfl rfl
        (fun made => boundFrom_countOr .minSize (by decide) nonempty falsy) h
    | _ => cases exposed
  | max =>
    cases tag with
    | number =>
      exact boundedRefinement_of_falsy (maxRule .number) rfl (by decide) nonempty falsy rfl rfl
        (fun made => boundFrom_numberOr .max (fun _ _ => Rule.max.inj) nonempty) h
    | string =>
      exact boundedRefinement_of_falsy (maxRule .string) rfl (by decide) nonempty falsy rfl rfl
        (fun made => boundFrom_countOr .maxLength (by decide) nonempty falsy) h
    | array =>
      exact boundedRefinement_of_falsy (maxRule .array) rfl (by decide) nonempty falsy rfl rfl
        (fun made => boundFrom_countOr .maxSize (by decide) nonempty falsy) h
    | _ => cases exposed
  | length =>
    cases tag with
    | string =>
      exact boundedRefinement_of_falsy (lengthRule .string) rfl (by decide) nonempty falsy rfl rfl
        (fun made => boundFrom_countOr .exactLength (by decide) nonempty falsy) h
    | array =>
      exact boundedRefinement_of_falsy (lengthRule .array) rfl (by decide) nonempty falsy rfl rfl
        (fun made => boundFrom_countOr .exactSize (by decide) nonempty falsy) h
    | _ => cases exposed
  | moreThan =>
    cases only exposed
    exact argumentRefinement_of_falsy (fun args => do return .moreThan (← args.numberOr 0 .zero)) rfl (by decide) nonempty falsy rfl rfl
      (fun made => boundFrom_numberOr .moreThan (fun _ _ => Rule.moreThan.inj) nonempty) h
  | lessThan =>
    cases only exposed
    exact argumentRefinement_of_falsy (fun args => do return .lessThan (← args.numberOr 0 .zero)) rfl (by decide) nonempty falsy rfl rfl
      (fun made => boundFrom_numberOr .lessThan (fun _ _ => Rule.lessThan.inj) nonempty) h
  | positive | negative | integer | email | url | lowercase | uppercase =>
    exact plainRefinement_of_falsy rfl (by decide) nonempty falsy rfl h
  | matching => exact ((ne_of_refinement_literals h).1 rfl).elim
  | shape => exact ((ne_of_refinement_literals h).2.1 rfl).elim
  | of => exact ((ne_of_refinement_literals h).2.2 rfl).elim

end Member

end Schemata
