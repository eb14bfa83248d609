import Schemata.Proofs.Rounding

/-!
# Documents that are written alike

Being written alike (`Json.same`) is an equivalence, by which documents that are written alike cannot be told apart
(`Json.same_congr`). It takes note of how a number is written; documents that differ in that alone, a whole number here being the same
binary64 number there, are `Json.Rewritten`.
-/

namespace Schemata

namespace Number

variable {n m : Number}

theorem same_comm (n m : Number) : n.same m = m.same n := by
  cases n <;> cases m <;> simp [same, Binary64.same, Bool.beq_comm]

/-- Numbers that are written alike are equal, or binary64 numbers of one value. -/
theorem eq_or_real_of_same (h : n.same m = true) : n = m ∨ ∃ x y : Binary64, x.units = y.units ∧ n = .real x ∧ m = .real y := by
  cases n <;> cases m <;> simp_all [same, Binary64.same_iff]

theorem same_congr (h : n.same m = true) (k : Number) : k.same n = k.same m := by
  rcases eq_or_real_of_same h with rfl | ⟨x, y, hunits, rfl, rfl⟩
  · rfl
  · cases k <;> simp [same, Binary64.same, hunits]

/-- A number, and the same number: a whole number of at most 2^53 in magnitude may be written as a binary64 number in one of the two
places. -/
inductive Rewritten : Number → Number → Prop where
  | same (n : Number) : Rewritten n n
  | real {n : Int} {inRange : -2 ^ 63 ≤ n ∧ n < 2 ^ 64} {x : Binary64} (small : n.natAbs ≤ 2 ^ 53)
      (value : x.units = n * Binary64.one) : Rewritten (.whole n inRange) (.real x)
  | whole {n : Int} {inRange : -2 ^ 63 ≤ n ∧ n < 2 ^ 64} {x : Binary64} (small : n.natAbs ≤ 2 ^ 53)
      (value : x.units = n * Binary64.one) : Rewritten (.real x) (.whole n inRange)

/-- The two are one quantity. -/
theorem Rewritten.units_eq (h : n.Rewritten m) : n.toBinary64.units = m.toBinary64.units := by
  have hwhole {n : Int} (inRange : -2 ^ 63 ≤ n ∧ n < 2 ^ 64) (small : n.natAbs ≤ 2 ^ 53) :
      (Number.whole n inRange).toBinary64.units = n * Binary64.one := by
    rw [toBinary64, Binary64.units_ofInt, Binary64.rounded_of_le small]
  cases h with
  | same n => rfl
  | real small value => exact (hwhole _ small).trans value.symm
  | whole small value => exact value.trans (hwhole _ small).symm

end Number

namespace Json

/-! ## Sameness is an equivalence -/

mutual

theorem same_refl : ∀ v : Json, v.same v = true
  | .null => rfl
  | .bool _ => beq_self_eq_true _
  | .num n => n.same_refl
  | .str _ => beq_self_eq_true _
  | .arr items => sameItems_refl items
  | .obj members => sameMembers_refl members

theorem sameItems_refl : ∀ items : List Json, sameItems items items = true
  | [] => rfl
  | v :: rest => by rw [sameItems, same_refl v, sameItems_refl rest]; rfl

theorem sameMembers_refl : ∀ members : List (String × Json), sameMembers members members = true
  | [] => rfl
  | (key, v) :: rest => by rw [sameMembers, beq_self_eq_true, same_refl v, sameMembers_refl rest]; rfl

end

mutual

theorem same_comm : ∀ v w : Json, v.same w = w.same v
  | .null, w => by cases w <;> rfl
  | .bool a, w => by
    cases w with
    | bool b => exact Bool.beq_comm
    | _ => rfl
  | .num n, w => by
    cases w with
    | num m => exact n.same_comm m
    | _ => rfl
  | .str s, w => by
    cases w with
    | str t => exact Bool.beq_comm
    | _ => rfl
  | .arr items, w => by
    cases w with
    | arr items' => exact sameItems_comm items items'
    | _ => rfl
  | .obj members, w => by
    cases w with
    | obj members' => exact sameMembers_comm members members'
    | _ => rfl

theorem sameItems_comm : ∀ items items' : List Json, sameItems items items' = sameItems items' items
  | [], items' => by cases items' <;> rfl
  | v :: rest, [] => rfl
  | v :: rest, w :: rest' => by rw [sameItems, sameItems, same_comm v w, sameItems_comm rest rest']

theorem sameMembers_comm : ∀ members members' : List (String × Json), sameMembers members members' = sameMembers members' members
  | [], members' => by cases members' <;> rfl
  | (key, v) :: rest, [] => rfl
  | (key, v) :: rest, (key', w) :: rest' => by
    rw [sameMembers, sameMembers, Bool.beq_comm, same_comm v w, sameMembers_comm rest rest']

end

mutual

/-- What is written alike is the same as the same documents. -/
theorem same_congr : ∀ {v w : Json}, v.same w = true → ∀ x : Json, x.same v = x.same w
  | .null, w, h, x => by cases w <;> first | rfl | cases h
  | .bool a, w, h, x => by
    cases w with
    | bool b =>
      obtain rfl := eq_of_beq h
      rfl
    | _ => cases h
  | .num n, w, h, x => by
    cases w with
    | num m =>
      cases x with
      | num k => exact Number.same_congr h k
      | _ => rfl
    | _ => cases h
  | .str s, w, h, x => by
    cases w with
    | str t =>
      obtain rfl := eq_of_beq h
      rfl
    | _ => cases h
  | .arr items, w, h, x => by
    cases w with
    | arr items' =>
      cases x with
      | arr tested => exact sameItems_congr h tested
      | _ => rfl
    | _ => cases h
  | .obj members, w, h, x => by
    cases w with
    | obj members' =>
      cases x with
      | obj tested => exact sameMembers_congr h tested
      | _ => rfl
    | _ => cases h

theorem sameItems_congr : ∀ {items items' : List Json}, sameItems items items' = true →
    ∀ tested : List Json, sameItems tested items = sameItems tested items'
  | [], [], _, _ => rfl
  | v :: rest, w :: rest', h, tested => by
    obtain ⟨hv, hrest⟩ := Bool.and_eq_true_iff.mp h
    cases tested with
    | nil => rfl
    | cons x tested => rw [sameItems, sameItems, same_congr hv x, sameItems_congr hrest tested]

theorem sameMembers_congr : ∀ {members members' : List (String × Json)}, sameMembers members members' = true →
    ∀ tested : List (String × Json), sameMembers tested members = sameMembers tested members'
  | [], [], _, _ => rfl
  | (key, v) :: rest, (key', w) :: rest', h, tested => by
    obtain ⟨h, hrest⟩ := Bool.and_eq_true_iff.mp h
    obtain ⟨hkey, hv⟩ := Bool.and_eq_true_iff.mp h
    obtain rfl := eq_of_beq hkey
    cases tested with
    | nil => rfl
    | cons x tested => rw [sameMembers, sameMembers, same_congr hv x.2, sameMembers_congr hrest tested]

end

/-! ## Numbers written otherwise -/

mutual

/-- Documents that differ in how some numbers in them, or they themselves, are written, and in nothing else. -/
inductive Rewritten : Json → Json → Prop where
  | same (v : Json) : Rewritten v v
  | num {n m : Number} (h : n.Rewritten m) : Rewritten (.num n) (.num m)
  | arr {items items' : List Json} (h : RewrittenItems items items') : Rewritten (.arr items) (.arr items')
  | obj {members members' : List (String × Json)} (h : RewrittenMembers members members') : Rewritten (.obj members) (.obj members')

/-- Items that are so, one by one. -/
inductive RewrittenItems : List Json → List Json → Prop where
  | nil : RewrittenItems [] []
  | cons {v w : Json} {rest rest' : List Json} (h : Rewritten v w) (hrest : RewrittenItems rest rest') :
      RewrittenItems (v :: rest) (w :: rest')

/-- Members that are so, under the same keys. -/
inductive RewrittenMembers : List (String × Json) → List (String × Json) → Prop where
  | nil : RewrittenMembers [] []
  | cons {key : String} {v w : Json} {rest rest' : List (String × Json)} (h : Rewritten v w) (hrest : RewrittenMembers rest rest') :
      RewrittenMembers ((key, v) :: rest) ((key, w) :: rest')

end

theorem RewrittenMembers.refl : ∀ members : Members, RewrittenMembers members members
  | [] => .nil
  | (_, v) :: rest => .cons (.same v) (refl rest)

/-- Under each key there is nothing on both sides, or values that differ so. -/
theorem RewrittenMembers.get? {members members' : Members} (h : RewrittenMembers members members') (key : String) :
    Option.Rel Rewritten (members.get? key) (members'.get? key) := by
  induction members generalizing members' with
  | nil =>
    cases h
    exact .none
  | cons entry rest ih =>
    cases h with
    | @cons known _ _ _ _ h hrest =>
      rw [Mapping.get?_cons, Mapping.get?_cons]
      by_cases hkey : known = key
      · rw [if_pos hkey, if_pos hkey]
        exact .some h
      · rw [if_neg hkey, if_neg hkey]
        exact ih hrest

end Json

end Schemata
