import Mathlib.Data.List.Basic
import Schemata.Text.Segments

/-!
# Where a text is cut

A text is cut at the first place from which it goes on with the mark. `afterFirst?` tries the places in order; what it finds is the
second part of the cut (`map_snd_cutAt?`), and there is a cut exactly when the mark is somewhere in the text (`occursIn_iff`).
-/

namespace Schemata.Text

/-- What follows a mark in a text at the first place where it goes on with the mark. -/
def afterFirst? (mark s : String) : Option String :=
  ((List.range (s.length + 1)).find? fun i => mark.toList.isPrefixOf (s.toList.drop i)).map fun i =>
    String.ofList (s.toList.drop (i + mark.length))

/-- Cutting a list is trying its places in order. -/
theorem map_snd_cutListAt? (mark s : List Char) :
    (cutListAt? mark s).map Prod.snd =
      ((List.range (s.length + 1)).find? fun i => mark.isPrefixOf (s.drop i)).map fun i => s.drop (i + mark.length) := by
  induction s with
  | nil =>
    by_cases h : mark = []
    · simp [cutListAt?, h]
    · simp [cutListAt?, h, List.range_succ]
  | cons c rest ih =>
    rw [List.length_cons, List.range_succ_eq_map, List.find?_cons]
    by_cases h : mark.isPrefixOf (c :: rest) = true
    · simp [cutListAt?, h]
    · -- Not here: the places of the rest are tried, each one further on.
      rw [Bool.not_eq_true] at h
      have hrest : (cutListAt? mark (c :: rest)).map Prod.snd = (cutListAt? mark rest).map Prod.snd := by
        simp [cutListAt?, h, Option.map_map, Function.comp_def]
      rw [hrest, ih]
      simp [h, List.find?_map, Option.map_map, Function.comp_def, Nat.succ_eq_add_one, Nat.add_right_comm _ 1]

/-- The second part of a cut is what follows the mark at the first place where it stands. -/
theorem map_snd_cutAt? (mark s : String) : (cutAt? mark s).map Prod.snd = afterFirst? mark s := by
  have h := congrArg (Option.map String.ofList) (map_snd_cutListAt? mark.toList s.toList)
  rw [Option.map_map, Option.map_map, String.length_toList, String.length_toList] at h
  rw [cutAt?, Option.map_map]
  exact h

example : afterFirst? "do." "x.do.do.it" = some "do.it" := by decide

/-- A list with a mark in it is cut. -/
theorem isSome_cutListAt?_append (mark before after : List Char) : (cutListAt? mark (before ++ mark ++ after)).isSome = true := by
  induction before with
  | nil =>
    have h : mark.isPrefixOf (mark ++ after) = true := List.isPrefixOf_iff_prefix.mpr (List.prefix_append _ _)
    rw [List.nil_append]
    cases hs : mark ++ after with
    | nil => simp_all [cutListAt?]
    | cons c rest => simp [cutListAt?, ← hs, h]
  | cons c before ih =>
    simp only [List.cons_append, cutListAt?]
    split
    · rfl
    · rw [Option.isSome_map]
      exact ih

/-- A mark occurs in a text when the text is the mark with something before it and something after it. -/
theorem occursIn_iff (mark s : String) : occursIn mark s = true ↔ ∃ before after, s = before ++ mark ++ after := by
  rw [occursIn, cutAt?, Option.isSome_map]
  constructor
  · intro h
    obtain ⟨⟨before, after⟩, hcut⟩ := Option.isSome_iff_exists.mp h
    refine ⟨String.ofList before, String.ofList after, String.toList_injective ?_⟩
    simpa using eq_append_of_cutListAt? hcut
  · rintro ⟨before, after, rfl⟩
    simpa using isSome_cutListAt?_append mark.toList before.toList after.toList

/-- What follows a mark that begins a text is the rest of the text. -/
theorem afterFirst?_append (mark rest : String) : afterFirst? mark (mark ++ rest) = some rest := by
  have h : mark.toList.isPrefixOf (mark ++ rest).toList = true := by
    rw [String.toList_append]
    exact List.isPrefixOf_iff_prefix.mpr (List.prefix_append _ _)
  rw [afterFirst?, List.range_succ_eq_map, List.find?_cons, List.drop_zero, h]
  simp [← String.length_toList]

end Schemata.Text
