import Schemata.Proofs.Json.Sameness
import Schemata.Proofs.Schema.Acceptance

/-!
# Sets and the way numbers are written

A set takes a number for an entry by its quantity, but an array or an object by the way it is written, the numbers in it included. So
the sets of schemas tell documents that differ in how numbers are written apart, unless these are numbers themselves; and a reference
to a field is a reference to another entry when numbers inside the field are written otherwise (`Schema.verdicts_of_rewritten`).
-/

namespace Schemata

/-! ## Entries -/

namespace Membership

variable {v w : Json}

theorem sameEntry_refl (v : Json) : sameEntry v v = true := by
  cases v with
  | num n => exact beq_self_eq_true _
  | _ => exact Json.same_refl _

/-- A value that is no number is one entry with the values that are written as it is. -/
theorem sameEntry_eq_same (h : Tag.number.admits v = false) (x : Json) : sameEntry x v = x.same v := by
  cases v with
  | num n => cases h
  | _ => cases x <;> rfl

theorem sameEntry_comm (v w : Json) : sameEntry v w = sameEntry w v := by
  cases v with
  | num n =>
    cases w with
    | num m => exact Bool.beq_comm
    | _ => rfl
  | _ =>
    cases w with
    | num m => rfl
    | _ => exact Json.same_comm _ _

/-- A number is one entry with numbers of its quantity. -/
theorem sameEntry_num_congr {n m : Number} (h : n.toBinary64.units = m.toBinary64.units) (x : Json) :
    sameEntry x (.num n) = sameEntry x (.num m) := by
  cases x with
  | num k => simp only [sameEntry, Binary64.same, h]
  | _ => rfl

/-- Two values that are one entry are one entry with the same values. -/
theorem sameEntry_congr (h : sameEntry v w = true) (x : Json) : sameEntry x v = sameEntry x w := by
  cases hw : Tag.number.admits w with
  | false =>
    have hsame : v.same w = true := by rwa [sameEntry_eq_same hw] at h
    have hv : Tag.number.admits v = false := by
      cases v with
      | num n =>
        cases w with
        | num m => cases hw
        | _ => cases hsame
      | _ => rfl
    rw [sameEntry_eq_same hv, sameEntry_eq_same hw, Json.same_congr hsame]
  | true =>
    cases w with
    | num m =>
      cases v with
      | num n => exact sameEntry_num_congr ((Binary64.same_iff _ _).mp h) x
      | _ => cases h
    | _ => cases hw

/-- Values that differ in how numbers are written are one entry if they are numbers themselves, or are written alike after all. -/
theorem sameEntry_rewritten_iff (h : v.Rewritten w) :
    sameEntry v w = true ↔ Tag.number.admits v = true ∨ v.same w = true := by
  cases hv : Tag.number.admits v with
  | false =>
    rw [sameEntry_comm, sameEntry_eq_same hv, Json.same_comm]
    simp
  | true =>
    refine ⟨fun _ => Or.inl rfl, fun _ => ?_⟩
    cases h with
    | same v => exact sameEntry_refl v
    | num h => exact (Binary64.same_iff _ _).mpr h.units_eq
    | arr _ => cases hv
    | obj _ => cases hv

/-- So it is with what there may be of such values. -/
theorem rel_sameEntry_iff {found found' : Option Json} (h : Option.Rel Json.Rewritten found found') :
    Option.Rel (sameEntry · · = true) found found' ↔
      ∀ x y, found = some x → found' = some y → Tag.number.admits x = true ∨ x.same y = true := by
  cases h with
  | none => exact ⟨fun _ => nofun, fun _ => .none⟩
  | some hxy =>
    constructor
    · intro hrel x y hx hy
      cases hx
      cases hy
      cases hrel with
      | some hentry => exact (sameEntry_rewritten_iff hxy).mp hentry
    · intro hwritten
      exact .some ((sameEntry_rewritten_iff hxy).mpr (hwritten _ _ rfl rfl))

variable {set : Membership} {parent parent' : Option Members}

theorem contains_singleton (entry : Allowed) (v : Json) (parent : Option Members) :
    contains ⟨[entry], none⟩ v parent = (entry.resolve parent).any (sameEntry · v) := by
  simp [contains]

/-- Of two values that are one entry, a set has both or neither. -/
theorem contains_of_sameEntry (h : sameEntry v w = true) (set : Membership) (parent : Option Members) :
    set.contains v parent = set.contains w parent := by
  unfold contains
  simp only [sameEntry_congr h]

/-- A set has the same values in two objects if each of its references leads to one entry in both, or nowhere. -/
theorem contains_of_resolve
    (h : ∀ r, .reference r ∈ set.values → Option.Rel (sameEntry · · = true) (r.resolve parent) (r.resolve parent')) (v : Json) :
    set.contains v parent = set.contains v parent' := by
  rw [Bool.eq_iff_iff, contains, contains, List.any_eq_true, List.any_eq_true]
  refine exists_congr fun entry => and_congr_right fun hm => ?_
  cases entry with
  | value v => rfl
  | reference r =>
    show (r.resolve parent).any (sameEntry · v) = true ↔ (r.resolve parent').any (sameEntry · v) = true
    have hr := h r hm
    generalize r.resolve parent = found at hr ⊢
    generalize r.resolve parent' = found' at hr ⊢
    cases hr with
    | none => rfl
    | some hsame => rw [Option.any_some, Option.any_some, sameEntry_comm, sameEntry_congr hsame, sameEntry_comm]

end Membership

/-! ## References -/

/-- A path leads nowhere in both of two objects that differ in how numbers are written, or to values that differ so. -/
theorem Reference.rel_follow : ∀ (segments : List String) {members members' : Members}, Json.RewrittenMembers members members' →
    Option.Rel Json.Rewritten (follow segments members) (follow segments members')
  | [], _, _, _ => .none
  | [segment], _, _, h => h.get? segment
  | segment :: next :: rest, members, members', h => by
    have hfound := h.get? segment
    rw [follow, follow]
    · generalize members.get? segment = found at hfound ⊢
      generalize members'.get? segment = found' at hfound ⊢
      cases hfound with
      | none => exact .none
      | @some v _ hv =>
        cases hv with
        | same =>
          cases v with
          | obj inner => exact rel_follow (next :: rest) (.refl inner)
          | _ => exact .none
        | obj hinner => exact rel_follow (next :: rest) hinner
        | _ => exact .none
    all_goals exact nofun

/-- So does a reference. -/
theorem Reference.rel_resolve (r : Reference) {members members' : Members} (h : Json.RewrittenMembers members members') :
    Option.Rel Json.Rewritten (r.resolve (some members)) (r.resolve (some members')) :=
  rel_follow r.segments h

namespace Schema

/-- The two sets of a schema decide alike of a value beside some members and of a value beside others. -/
structure DecidesAlike (s : Schema) (v : Json) (parent : Option Members) (w : Json) (parent' : Option Members) : Prop where
  oneOf : s.oneOfViolation? v parent = none ↔ s.oneOfViolation? w parent' = none
  notOneOf : s.notOneOfViolation? v parent = none ↔ s.notOneOfViolation? w parent' = none

/-- A set is one of the two of a schema. -/
def HasSet (s : Schema) (set : Membership) : Prop :=
  s.oneOfSet = some set ∨ s.notOneOfSet = some set

/-- The sets of a schema have no references but the given ones. -/
def RefersTo (s : Schema) (refs : List Reference) : Prop :=
  ∀ set, s.HasSet set → ∀ r, .reference r ∈ set.values → r ∈ refs

variable {s : Schema} {v w : Json} {parent parent' : Option Members}

/-- Sets decide alike if they have both values or neither. -/
theorem decidesAlike_of_contains (h : ∀ set, s.HasSet set → set.contains v parent = set.contains w parent') :
    s.DecidesAlike v parent w parent' where
  oneOf := by
    unfold oneOfViolation?
    cases hs : s.oneOfSet with
    | none => rfl
    | some set =>
      simp only [h set (Or.inl hs)]
      split <;> simp
  notOneOf := by
    unfold notOneOfViolation?
    cases hs : s.notOneOfSet with
    | none => rfl
    | some set =>
      simp only [h set (Or.inr hs)]
      split <;> simp

/-- A schema whose only demand is a set decides alike only of values that the set has both of, or neither. -/
theorem contains_of_decidesAlike {t : Tag} {values : List Allowed}
    (h : ((ofTag t).oneOf values none).DecidesAlike v parent w parent') :
    Membership.contains ⟨values, none⟩ v parent = Membership.contains ⟨values, none⟩ w parent' := by
  have hiff := h.oneOf
  simp only [oneOfViolation?, oneOf] at hiff
  rw [Bool.eq_iff_iff]
  simpa using hiff

/-- The sets of schemas of a kind decide alike of two values if and only if these are one entry. -/
theorem decidesAlike_iff_sameEntry (t : Tag) (v w : Json) :
    (∀ s : Schema, s.tag = t → ∀ parent, s.DecidesAlike v parent w parent) ↔ Membership.sameEntry v w = true := by
  constructor
  · intro halike
    -- The set of the one value has the other.
    have hset := contains_of_decidesAlike (halike ((ofTag t).oneOf [.value v] none) (Kind.tag_ofTag t) none)
    rw [Membership.contains_singleton, Membership.contains_singleton] at hset
    exact hset.symm.trans (Membership.sameEntry_refl v)
  · intro hentry s _ parent
    exact decidesAlike_of_contains fun set _ => Membership.contains_of_sameEntry hentry set parent

/-- Sets with references decide alike in two objects if and only if each reference leads to one entry in both, or nowhere. -/
theorem decidesAlike_iff_resolve (t : Tag) (refs : List Reference) (parent parent' : Option Members) :
    (∀ s : Schema, s.tag = t → s.RefersTo refs → ∀ u, s.DecidesAlike u parent u parent') ↔
      ∀ r ∈ refs, Option.Rel (Membership.sameEntry · · = true) (r.resolve parent) (r.resolve parent') := by
  constructor
  · intro halike r hr
    have hrefs : ((ofTag t).oneOf [.reference r] none).RefersTo refs := by
      intro set hs r' hr'
      obtain rfl : ⟨[.reference r], none⟩ = set := Option.some.inj (hs.resolve_right nofun)
      rcases List.mem_singleton.mp hr'
      exact hr
    -- What the reference leads to in the one object is in the set of the reference there, and so in that of the other.
    have hset u : (r.resolve parent).any (Membership.sameEntry · u) = (r.resolve parent').any (Membership.sameEntry · u) := by
      have h := contains_of_decidesAlike (halike ((ofTag t).oneOf [.reference r] none) (Kind.tag_ofTag t) hrefs u)
      rwa [Membership.contains_singleton, Membership.contains_singleton] at h
    cases hx : r.resolve parent with
    | none =>
      cases hy : r.resolve parent' with
      | none => exact .none
      | some y =>
        have h := hset y
        rw [hx, hy, Option.any_some, Membership.sameEntry_refl] at h
        cases h
    | some x =>
      have h := hset x
      rw [hx, Option.any_some, Membership.sameEntry_refl] at h
      cases hy : r.resolve parent' with
      | none =>
        rw [hy] at h
        cases h
      | some y =>
        rw [hy, Option.any_some, Membership.sameEntry_comm] at h
        exact .some h.symm
  · intro hled s _ hrefs u
    exact decidesAlike_of_contains fun set hset => Membership.contains_of_resolve (fun r hm => hled r (hrefs set hset r hm)) u

/-- Documents that differ only in how numbers are written are told apart by the sets of some schema, of any kind, unless they are
numbers or written alike after all. So are they by references: a set that refers to fields of objects that differ in this way is the same
set in both, unless a reference leads to such documents. -/
theorem verdicts_of_rewritten (t : Tag) (h : v.Rewritten w) {around around' : Members} (haround : Json.RewrittenMembers around around')
    (refs : List Reference) :
    ((∀ s : Schema, s.tag = t → ∀ parent, s.DecidesAlike v parent w parent) ↔ Tag.number.admits v = true ∨ v.same w = true) ∧
      ((∀ s : Schema, s.tag = t → s.RefersTo refs → ∀ u, s.DecidesAlike u (some around) u (some around')) ↔
        ∀ r ∈ refs, ∀ x y, r.resolve (some around) = some x → r.resolve (some around') = some y →
          Tag.number.admits x = true ∨ x.same y = true) := by
  refine ⟨?_, ?_⟩
  · rw [decidesAlike_iff_sameEntry, Membership.sameEntry_rewritten_iff h]
  · rw [decidesAlike_iff_resolve]
    exact forall₂_congr fun r _ => Membership.rel_sameEntry_iff (r.rel_resolve haround)

end Schema

namespace WrittenNumbersWitness

/-- The number one, as a whole number. -/
def whole : Json := .num (.whole 1 (by decide))

/-- The number one, as a binary64 number. -/
def real : Json := .num (.real (.ofInt 1 (by decide)))

theorem rewritten : whole.Rewritten real :=
  .num (.real (by decide) (by decide +kernel))

theorem rewritten_list : (Json.arr [whole]).Rewritten (.arr [real]) :=
  .arr (.cons rewritten .nil)

/-- A list that has to be the list beside it. -/
def copy : Schema :=
  (Schema.ofTag .object).shape
    [("a", (Schema.ofTag .array).oneOf [.reference ⟨"b"⟩] none), ("b", .ofTag .array)]

/-- Sets cannot tell the two numbers apart, nor members of an object that are the two numbers; but lists of them they can. -/
theorem verdicts_of_one :
    (whole.Rewritten real ∧ Json.RewrittenMembers [("b", whole)] [("b", real)] ∧
      (∀ s : Schema, s.tag = .number → ∀ parent, s.DecidesAlike whole parent real parent) ∧
      ∀ s : Schema, s.tag = .number → s.RefersTo [⟨"b"⟩] → ∀ u, s.DecidesAlike u (some [("b", whole)]) u (some [("b", real)])) ∧
    (Json.arr [whole]).Rewritten (.arr [real]) ∧
      ¬∀ s : Schema, s.tag = .array → ∀ parent, s.DecidesAlike (.arr [whole]) parent (.arr [real]) parent := by
  have haround : Json.RewrittenMembers [("b", whole)] [("b", real)] := .cons rewritten .nil
  obtain ⟨hvalue, hreference⟩ := Schema.verdicts_of_rewritten .number rewritten haround [⟨"b"⟩]
  obtain ⟨hlist, -⟩ := Schema.verdicts_of_rewritten .array rewritten_list haround []
  refine ⟨⟨rewritten, haround, hvalue.mpr (Or.inl rfl), hreference.mpr fun r hr x y hx _ => Or.inl ?_⟩, rewritten_list, fun h => ?_⟩
  · rcases List.mem_singleton.mp hr
    have hresolve : Reference.resolve ⟨"b"⟩ (some [("b", whole)]) = some whole := rfl
    rw [hresolve] at hx
    cases hx
    rfl
  · rcases hlist.mp h with hnumber | hsame
    · cases hnumber
    · cases hsame

/-- A list of the one number is not in the set of the list of the other, whether the list is in the set or referred to. -/
theorem lists_of_one_told_apart :
    (Json.arr [whole]).Rewritten (.arr [real]) ∧
      (((Schema.ofTag .array).oneOf [.value (.arr [whole])] none).isValid (some (.arr [whole])) = true ∧
        ((Schema.ofTag .array).oneOf [.value (.arr [whole])] none).isValid (some (.arr [real])) = false) ∧
      (((Schema.ofTag .array).notOneOf [.value (.arr [whole])] none).isValid (some (.arr [whole])) = false ∧
        ((Schema.ofTag .array).notOneOf [.value (.arr [whole])] none).isValid (some (.arr [real])) = true) ∧
      copy.isValid (some (.obj [("a", .arr [whole]), ("b", .arr [whole])])) = true ∧
        copy.isValid (some (.obj [("a", .arr [whole]), ("b", .arr [real])])) = false :=
  ⟨rewritten_list, by decide +kernel, by decide +kernel, by decide +kernel, by decide +kernel⟩

end WrittenNumbersWitness

end Schemata
