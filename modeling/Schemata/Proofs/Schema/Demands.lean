import Schemata.Proofs.Schema.Acceptance
import Schemata.Proofs.Violation.Leaves

/-!
# What is asked of a value, and what is said when it fails

A place makes demands, in a fixed order (`Place.demands`), each with the code it fails under, and a message can be declared for most
of them (`Demand.declared?`). What is said of a place that fails is what its first unmet demand says (`Place.tells_ownViolation?`): the
declared message of a presence or of a set in place of the plain one, but of a rule the plain message whether one is declared or not
(`Demand.said`).
-/

namespace Schemata

/-- One thing that is asked of a value itself, its parts aside. -/
inductive Demand where
  | presence
  | kind
  | nonempty
  | member (set : Membership)
  | nonmember (set : Membership)
  | rule (r : Rule)

namespace Demand

/-- The code under which a demand fails. -/
def code : Demand → String
  | .presence => "required"
  | .kind => "type_mismatch"
  | .nonempty => "required"
  | .member _ => "one_of"
  | .nonmember _ => "not_one_of"
  | .rule r => r.code

/-- A value is missing: there is none, or it is null. -/
def isMissing : Option Json → Bool
  | none => true
  | some .null => true
  | some _ => false

/-- The empty text. -/
def isEmptyText : Json → Bool
  | .str s => s == ""
  | _ => false

/-- A place meets a demand. -/
def isMet (p : Place) : Demand → Bool
  | .presence => !(p.schema.isRequired && isMissing p.value)
  | .kind => p.value.all p.schema.tag.admits
  | .nonempty => !(p.schema.isRequired && p.schema.tag == .string && p.value.any isEmptyText)
  | .member set => p.value.all fun v => set.contains v p.parent
  | .nonmember set => p.value.all fun v => !set.contains v p.parent
  | .rule r => p.value.all r.accepts

/-- Only an empty text where a text has to be there is refused as empty. -/
theorem isMet_nonempty_iff (s : Schema) (v : Json) (parent : Option Members) :
    Demand.nonempty.isMet ⟨s, some v, parent⟩ = true ↔ ¬(s.isRequired = true ∧ s.tag = .string ∧ v = .str "") := by
  cases v <;> simp [isMet, isEmptyText, imp_iff_not_or, or_assoc]

/-- The message that was declared for a demand, if one was. -/
def declared? (p : Place) : Demand → Option String
  | .presence => p.schema.requiredMessage
  | .kind => none
  | .nonempty => p.schema.requiredMessage
  | .member set => set.message
  | .nonmember set => set.message
  | .rule r => r.declared?

/-- What a demand that is not met says when no message is declared. -/
def plain (p : Place) : Demand → String
  | .presence => "This field is required"
  | .kind => "Expected a value of type " ++ p.schema.tag.name
  | .nonempty => "This field is required"
  | .member set => "Must be one of: " ++ set.listed p.parent
  | .nonmember set => "Must not be one of: " ++ set.listed p.parent
  | .rule r => r.plain (p.value.getD .null)

/-- A demand is that of a rule. -/
def isRule : Demand → Bool
  | .rule _ => true
  | _ => false

/-- What a demand that is not met says: the declared message in place of the plain one, unless the demand is that of a rule. -/
def said (p : Place) (d : Demand) : String :=
  if d.isRule then d.plain p else (d.declared? p).getD (d.plain p)

/-- A violation is what a demand says when it is not met: it has the code of the demand, and one leaf, which says it at no path. -/
structure Says (d : Demand) (p : Place) (e : Violation) : Prop where
  code_eq : e.code = d.code
  notices_eq : e.notices = [(none, d.said p, d.code)]

/-- A label does not change what is said. -/
theorem Says.labelled {p : Place} {d : Demand} {e : Violation} (h : d.Says p e) (label : Option String) :
    d.Says p (e.labelled label) where
  code_eq := (Violation.code_labelled e label).trans h.code_eq
  notices_eq := (Violation.notices_labelled e label).trans h.notices_eq

/-- A declared message is what is said exactly if the demand is not that of a rule, or the rule says the same by itself. -/
theorem said_eq_iff {p : Place} {d : Demand} {message : String} (h : d.declared? p = some message) :
    d.said p = message ↔ (d.isRule = true → d.plain p = message) := by
  cases hr : d.isRule <;> simp [said, hr, h]

end Demand

namespace Schema

/-- What is asked of a value that is there, in order. -/
def bodyDemands (s : Schema) : List Demand :=
  [.kind, .nonempty] ++ s.oneOfSet.toList.map .member ++ s.notOneOfSet.toList.map .nonmember ++ s.rules.map .rule

end Schema

namespace Place

/-- What is asked of a place itself, in order; null is excused where it may be, and else looked at like any other value. -/
def demands (p : Place) : List Demand :=
  match p.value with
  | none => [.presence]
  | some .null => .presence :: if p.schema.isNullable then [] else p.schema.bodyDemands
  | some _ => p.schema.bodyDemands

/-- The first demand that a place does not meet. -/
def firstUnmet? (p : Place) : Option Demand :=
  p.demands.find? fun d => !d.isMet p

/-! ## A run of demands -/

/-- What is found is what the first unmet demand of a list says, and nothing where all are met. -/
def Tells (p : Place) (demands : List Demand) (found : Option Violation) : Prop :=
  Option.Rel (fun d e => d.Says p e) (demands.find? fun d => !d.isMet p) found

namespace Tells

variable {p : Place} {demands more : List Demand} {found next : Option Violation}

/-- Of no demands nothing is found. -/
theorem nil : p.Tells [] none :=
  Option.Rel.none

/-- One demand. -/
theorem single {d : Demand} {e : Violation} (h : d.Says p e) :
    p.Tells [d] (if d.isMet p then none else some e) := by
  cases hmet : d.isMet p with
  | true => simp [Tells, hmet]
  | false => simpa [Tells, hmet] using Option.Rel.some h

/-- Where nothing is found, the next demands are looked at. -/
theorem append (h : p.Tells demands found) (h' : p.Tells more next) : p.Tells (demands ++ more) (found <|> next) := by
  unfold Tells at h ⊢
  rw [List.find?_append]
  generalize demands.find? (fun d => !d.isMet p) = first at h ⊢
  cases h with
  | none => exact h'
  | some h => exact .some h

/-- A label does not change what is said. -/
theorem labelled (h : p.Tells demands found) (label : Option String) : p.Tells demands (found.map (·.labelled label)) := by
  unfold Tells at h ⊢
  generalize demands.find? (fun d => !d.isMet p) = first at h ⊢
  cases h with
  | none => exact .none
  | some h => exact .some (h.labelled label)

end Tells

variable (s : Schema) (v : Json) (parent : Option Members)

/-- What is said of a value that has to be there is the declared message, or else the plain one. -/
theorem says_requiredViolation {d : Demand} (p : Place) (h : d = .presence ∨ d = .nonempty) :
    d.Says p p.schema.requiredViolation := by
  rcases h with rfl | rfl <;> exact ⟨rfl, Violation.notices_of_nested_eq_nil rfl rfl⟩

theorem tells_kindViolation? : (Place.mk s (some v) parent).Tells [.kind] (s.kindViolation? v) :=
  Tells.single ⟨rfl, Violation.notices_of_nested_eq_nil rfl rfl⟩

theorem tells_emptyViolation? : (Place.mk s (some v) parent).Tells [.nonempty] (s.emptyViolation? v) := by
  have h : s.emptyViolation? v = if Demand.nonempty.isMet ⟨s, some v, parent⟩ then none else some s.requiredViolation := by
    by_cases hempty : s.isRequired = true ∧ s.tag = .string ∧ v = .str ""
    · obtain ⟨hr, ht, rfl⟩ := hempty
      simp [Schema.emptyViolation?, Demand.isMet, Demand.isEmptyText, hr, ht]
    · rw [(s.emptyViolation?_eq_none_iff v).mpr hempty, if_pos ((Demand.isMet_nonempty_iff s v parent).mpr hempty)]
  rw [h]
  exact Tells.single (says_requiredViolation ⟨s, some v, parent⟩ (Or.inr rfl))

theorem tells_oneOfViolation? :
    (Place.mk s (some v) parent).Tells (s.oneOfSet.toList.map .member) (s.oneOfViolation? v parent) := by
  unfold Schema.oneOfViolation?
  cases s.oneOfSet with
  | none => exact Tells.nil
  | some set => exact Tells.single (d := .member set) ⟨rfl, Violation.notices_of_nested_eq_nil rfl rfl⟩

theorem tells_notOneOfViolation? :
    (Place.mk s (some v) parent).Tells (s.notOneOfSet.toList.map .nonmember) (s.notOneOfViolation? v parent) := by
  unfold Schema.notOneOfViolation?
  cases s.notOneOfSet with
  | none => exact Tells.nil
  | some set =>
    have h := Tells.single (p := ⟨s, some v, parent⟩) (d := .nonmember set)
      (e := Schema.membershipViolation "not_one_of" "Must not be one of" set parent)
      ⟨rfl, Violation.notices_of_nested_eq_nil rfl rfl⟩
    cases hc : set.contains v parent <;> simpa [Demand.isMet, hc] using h

/-- The rules are looked at in order, up to the first that does not accept the value; it says its plain message. -/
theorem tells_ruleViolation? (rules : List Rule) :
    (Place.mk s (some v) parent).Tells (rules.map .rule) (rules.findSome? (·.violation? v)) := by
  induction rules with
  | nil => exact Tells.nil
  | cons rule rest ih =>
    have h : (Place.mk s (some v) parent).Tells [.rule rule] (rule.violation? v) :=
      Tells.single ⟨rule.code_violation v, rule.notices_violation v⟩
    have hcons : (rule :: rest).findSome? (·.violation? v) = (rule.violation? v <|> rest.findSome? (·.violation? v)) := by
      rw [List.findSome?_cons]
      cases rule.violation? v <;> rfl
    rw [hcons]
    exact h.append ih

theorem tells_bodyViolation? : (Place.mk s (some v) parent).Tells s.bodyDemands (s.bodyViolation? v parent) := by
  have h := (tells_kindViolation? s v parent).append ((tells_emptyViolation? s v parent).append
    ((tells_oneOfViolation? s v parent).append ((tells_notOneOfViolation? s v parent).append
      (tells_ruleViolation? s v parent s.rules))))
  simpa only [Schema.bodyViolation?, Schema.ruleViolation?, Schema.bodyDemands, List.append_assoc, List.cons_append,
    List.nil_append] using h

/-- What is wrong at a place itself is what its first unmet demand says. -/
theorem tells_ownViolation? (p : Place) : p.Tells p.demands p.ownViolation? := by
  obtain ⟨s, value, parent⟩ := p
  simp only [ownViolation?, Schema.ownViolation?]
  apply Tells.labelled
  rcases value with _ | v
  · have h := Tells.single (says_requiredViolation ⟨s, none, parent⟩ (Or.inl rfl))
    cases hr : s.isRequired <;> simpa [Demand.isMet, Demand.isMissing, hr, demands] using h
  · cases v with
    | null =>
      have hmissing := Tells.single (says_requiredViolation ⟨s, some .null, parent⟩ (Or.inl rfl))
      have hexcused : (Place.mk s (some .null) parent).Tells (if s.isNullable then [] else s.bodyDemands)
          (if s.isNullable then none else s.bodyViolation? .null parent) := by
        split
        · exact Tells.nil
        · exact tells_bodyViolation? s .null parent
      have h := hmissing.append hexcused
      cases hr : s.isRequired <;> simpa [Demand.isMet, Demand.isMissing, hr, demands] using h
    | _ => exact tells_bodyViolation? s _ parent

/-- Where all demands are met, nothing is wrong at a place itself. -/
theorem ownViolation?_of_met {p : Place} (h : p.firstUnmet? = none) : p.ownViolation? = none := by
  have htells : Option.Rel _ p.firstUnmet? p.ownViolation? := p.tells_ownViolation?
  rw [h] at htells
  cases hown : p.ownViolation? with
  | none => rfl
  | some e =>
    rw [hown] at htells
    cases htells

/-- Where a demand is not met, something is wrong at a place itself, and it says what the first such demand says. -/
theorem ownViolation?_of_unmet {p : Place} {d : Demand} (h : p.firstUnmet? = some d) :
    ∃ e, p.ownViolation? = some e ∧ d.Says p e := by
  have htells : Option.Rel _ p.firstUnmet? p.ownViolation? := p.tells_ownViolation?
  rw [h] at htells
  cases hown : p.ownViolation? with
  | none =>
    rw [hown] at htells
    cases htells
  | some e =>
    rw [hown] at htells
    cases htells with
    | some hsays => exact ⟨e, rfl, hsays⟩

/-- What is wrong at a place itself has the code of its first unmet demand. -/
theorem map_code_ownViolation? (p : Place) : p.ownViolation?.map (·.code) = p.firstUnmet?.map Demand.code := by
  cases h : p.firstUnmet? with
  | none => rw [ownViolation?_of_met h, Option.map_none, Option.map_none]
  | some d =>
    obtain ⟨e, hown, hsays⟩ := ownViolation?_of_unmet h
    rw [hown, Option.map_some, Option.map_some, hsays.code_eq]

/-- Nothing is wrong at a place itself exactly where all demands are met. -/
theorem ownViolation?_eq_none_iff (p : Place) : p.ownViolation? = none ↔ p.firstUnmet? = none := by
  rw [← Option.map_eq_none_iff, map_code_ownViolation?, Option.map_eq_none_iff]

end Place

end Schemata
