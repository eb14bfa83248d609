/-!
# What is left after reading

A reader takes a part from the front of a list and returns what is left. The types say that the rest is shorter, or at least no
longer, so that a loop over such readers ends.
-/

namespace Schemata

/-- A list shorter than a given one. -/
abbrev Shorter {α : Type} (s : List α) := { r : List α // r.length < s.length }

/-- A list no longer than a given one. -/
abbrev NoLonger {α : Type} (s : List α) := { r : List α // r.length ≤ s.length }

/-- What is shorter than a list is shorter than a list no shorter than that. -/
def Shorter.within {α : Type} {s t : List α} (r : Shorter s) (h : s.length ≤ t.length) : Shorter t :=
  ⟨r.1, Nat.lt_of_lt_of_le r.2 h⟩

/-- What is no longer than a list is shorter than a list longer than that. -/
def NoLonger.inside {α : Type} {s t : List α} (r : NoLonger s) (h : s.length < t.length) : Shorter t :=
  ⟨r.1, Nat.lt_of_le_of_lt r.2 h⟩

/-- What follows the first item of a list. -/
def Shorter.tail {α : Type} {c : α} (rest : List α) : Shorter (c :: rest) :=
  ⟨rest, Nat.lt_succ_self _⟩

/-- What is shorter than a list is shorter than that list with items in front. -/
def Shorter.behind {α : Type} {s : List α} (r : Shorter s) (front : List α) : Shorter (front ++ s) :=
  r.within (List.length_append ▸ Nat.le_add_left _ _)

/-- A list is no longer than itself. -/
def NoLonger.whole {α : Type} (s : List α) : NoLonger s :=
  ⟨s, Nat.le_refl _⟩

/-- What is no longer than a list is shorter than that list with an item in front. -/
def NoLonger.tail {α : Type} {c : α} {s : List α} (r : NoLonger s) : Shorter (c :: s) :=
  r.inside (Nat.lt_succ_self _)

/-- What is no longer than a list is no longer than that list with items in front. -/
def NoLonger.behind {α : Type} {s : List α} (r : NoLonger s) (front : List α) : NoLonger (front ++ s) :=
  ⟨r.1, Nat.le_trans r.2 (List.length_append ▸ Nat.le_add_left _ _)⟩

/-- What is shorter than a list is no longer. -/
def Shorter.noLonger {α : Type} {s : List α} (r : Shorter s) : NoLonger s :=
  ⟨r.1, Nat.le_of_lt r.2⟩

theorem length_dropWhile_le {α : Type} (p : α → Bool) (s : List α) : (s.dropWhile p).length ≤ s.length :=
  (List.dropWhile_sublist p).length_le

end Schemata
