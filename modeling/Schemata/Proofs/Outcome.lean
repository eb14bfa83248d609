import Mathlib.Data.List.Perm.Basic

/-!
# Outcomes

A run in `Except` gives a value when each part of it does, and else the error of the first part that fails.
-/

namespace Schemata

variable {α β ε ε' : Type}

/-- Going on gives a value when both parts do. -/
theorem bind_eq_ok_iff {x : Except ε α} {f : α → Except ε β} {b : β} :
    x >>= f = .ok b ↔ ∃ a, x = .ok a ∧ f a = .ok b := by
  cases x <;> simp [bind, Except.bind]

/-- Going on fails in the first part or in the second. -/
theorem bind_eq_error_iff {x : Except ε α} {f : α → Except ε β} {e : ε} :
    x >>= f = .error e ↔ x = .error e ∨ ∃ a, x = .ok a ∧ f a = .error e := by
  cases x <;> simp [bind, Except.bind]

theorem map_eq_ok_iff {x : Except ε α} {f : α → β} {b : β} : f <$> x = .ok b ↔ ∃ a, x = .ok a ∧ f a = b := by
  cases x <;> simp [Functor.map, Except.map]

theorem map_eq_error_iff {x : Except ε α} {f : α → β} {e : ε} : f <$> x = .error e ↔ x = .error e := by
  cases x <;> simp [Functor.map, Except.map]

theorem mapError_eq_ok_iff {x : Except ε α} {f : ε → ε'} {a : α} : x.mapError f = .ok a ↔ x = .ok a := by
  cases x <;> simp [Except.mapError]

theorem mapError_eq_error_iff {x : Except ε α} {f : ε → ε'} {e : ε'} :
    x.mapError f = .error e ↔ ∃ e', x = .error e' ∧ f e' = e := by
  cases x <;> simp [Except.mapError]

/-- Taking items in order gives values when every item gives one. -/
theorem mapM_eq_ok_iff {f : α → Except ε β} {xs : List α} {ys : List β} :
    xs.mapM f = .ok ys ↔ List.Forall₂ (fun x y => f x = .ok y) xs ys := by
  induction xs generalizing ys with
  | nil =>
    rw [List.forall₂_nil_left_iff]
    exact ⟨fun h => (Except.ok.inj h).symm, fun h => congrArg Except.ok h.symm⟩
  | cons x rest ih =>
    rw [List.mapM_cons, bind_eq_ok_iff, List.forall₂_cons_left_iff]
    constructor
    · rintro ⟨y, hy, h⟩
      obtain ⟨more, hmore, h⟩ := bind_eq_ok_iff.mp h
      exact ⟨y, more, hy, ih.mp hmore, (Except.ok.inj h).symm⟩
    · rintro ⟨y, more, hy, hmore, rfl⟩
      exact ⟨y, hy, bind_eq_ok_iff.mpr ⟨more, ih.mpr hmore, rfl⟩⟩

/-- What follows for every item from its partner is so of all items that have one. -/
theorem forall_of_forall₂ {r : α → β → Prop} {p : β → Prop} {xs : List α} {ys : List β} (h : List.Forall₂ r xs ys)
    (hp : ∀ x ∈ xs, ∀ y, r x y → p y) : ∀ y ∈ ys, p y := by
  induction h with
  | nil => exact nofun
  | cons hxy _ ih =>
    intro y hy
    rcases List.mem_cons.mp hy with rfl | hy
    · exact hp _ List.mem_cons_self _ hxy
    · exact ih (fun x hx => hp x (List.mem_cons_of_mem _ hx)) y hy

/-- What is so of the value of every item is so of the values of items taken in order. -/
theorem forall_of_mapM_eq_ok {f : α → Except ε β} {p : β → Prop} {xs : List α} {ys : List β} (h : xs.mapM f = .ok ys)
    (hp : ∀ x ∈ xs, ∀ y, f x = .ok y → p y) : ∀ y ∈ ys, p y :=
  forall_of_forall₂ (mapM_eq_ok_iff.mp h) hp

/-- What every step keeps is so of what the steps come to. -/
theorem of_foldlM_eq_ok {f : β → α → Except ε β} {p : β → Prop} {xs : List α} {b b' : β} (h : xs.foldlM f b = .ok b') (hb : p b)
    (step : ∀ x ∈ xs, ∀ b b', p b → f b x = .ok b' → p b') : p b' := by
  induction xs generalizing b with
  | nil =>
    cases h
    exact hb
  | cons x rest ih =>
    rw [List.foldlM_cons] at h
    obtain ⟨next, hnext, h⟩ := bind_eq_ok_iff.mp h
    exact ih h (step x List.mem_cons_self b next hb hnext) fun y hy => step y (List.mem_cons_of_mem x hy)

/-- Steps that fail do so at one of them. -/
theorem exists_of_foldlM_eq_error {f : β → α → Except ε β} {xs : List α} {b : β} {e : ε} (h : xs.foldlM f b = .error e) :
    ∃ x ∈ xs, ∃ b, f b x = .error e := by
  induction xs generalizing b with
  | nil => cases h
  | cons x rest ih =>
    rw [List.foldlM_cons] at h
    rcases bind_eq_error_iff.mp h with h | ⟨next, -, h⟩
    · exact ⟨x, List.mem_cons_self, b, h⟩
    · obtain ⟨y, hy, hfails⟩ := ih h
      exact ⟨y, List.mem_cons_of_mem x hy, hfails⟩

/-- Items in another order give the same values in another order. -/
theorem mapM_perm {f : α → Except ε β} {xs xs' : List α} (h : xs.Perm xs') {ys : List β} (hys : xs.mapM f = .ok ys) :
    ∃ ys', xs'.mapM f = .ok ys' ∧ ys.Perm ys' := by
  obtain ⟨ys', hys', hperm⟩ := List.perm_comp_forall₂ h.symm (mapM_eq_ok_iff.mp hys)
  exact ⟨ys', mapM_eq_ok_iff.mpr hys', hperm.symm⟩

/-- Taking items in order fails with the error of the first item that fails. -/
theorem mapM_eq_error_iff {f : α → Except ε β} {xs : List α} {e : ε} :
    xs.mapM f = .error e ↔
      ∃ before x after, xs = before ++ x :: after ∧ (∀ y ∈ before, ∃ b, f y = .ok b) ∧ f x = .error e := by
  induction xs with
  | nil =>
    constructor
    · intro h
      cases h
    · rintro ⟨before, x, after, h, -⟩
      simp at h
  | cons x rest ih =>
    rw [List.mapM_cons, bind_eq_error_iff]
    constructor
    · rintro (h | ⟨b, hb, h⟩)
      · exact ⟨[], x, rest, rfl, by simp, h⟩
      · rcases bind_eq_error_iff.mp h with h | ⟨more, -, h⟩
        · obtain ⟨before, y, after, rfl, hbefore, hy⟩ := ih.mp h
          refine ⟨x :: before, y, after, rfl, ?_, hy⟩
          intro z hz
          rcases List.mem_cons.mp hz with rfl | hz
          · exact ⟨b, hb⟩
          · exact hbefore z hz
        · cases h
    · rintro ⟨before, y, after, h, hbefore, hy⟩
      rcases before with _ | ⟨z, before⟩
      · obtain ⟨rfl, rfl⟩ := List.cons.inj h
        exact Or.inl hy
      · obtain ⟨rfl, rfl⟩ := List.cons.inj h
        obtain ⟨b, hb⟩ := hbefore x List.mem_cons_self
        refine Or.inr ⟨b, hb, bind_eq_error_iff.mpr (Or.inl (ih.mpr ⟨before, y, after, rfl, ?_, hy⟩))⟩
        exact fun z hz => hbefore z (List.mem_cons_of_mem _ hz)

/-- Items taken in order fail at one of them. -/
theorem exists_of_mapM_eq_error {f : α → Except ε β} {xs : List α} {e : ε} (h : xs.mapM f = .error e) : ∃ x ∈ xs, f x = .error e := by
  obtain ⟨before, x, after, rfl, -, hx⟩ := mapM_eq_error_iff.mp h
  exact ⟨x, List.mem_append_right _ List.mem_cons_self, hx⟩

end Schemata
