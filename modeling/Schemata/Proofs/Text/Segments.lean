import Schemata.Text.Segments

/-!
# The segments of a text

The segments of a text are the one way to cut it into parts without the separator that make the text again when the separator is put
between them (`segments_eq_iff`). So of two texts with the separator between them, the segments are those of the first and then those
of the second (`segments_append`).
-/

namespace Schemata.Text

/-- Parts in which the separator does not occur, and which make a text when it is put between them. -/
structure Separates (separator : Char) (parts : List String) (s : String) : Prop where
  nonempty : parts ≠ []
  free : ∀ part ∈ parts, separator ∉ part.toList
  joined : (String.singleton separator).intercalate parts = s

variable {separator : Char}

/-- The parts of a list are the pieces into which the library splits it. -/
theorem segmentsOf_eq_splitOn (separator : Char) (s : List Char) : segmentsOf separator s = s.splitOn separator := by
  induction s with
  | nil => rfl
  | cons c rest ih =>
    rw [segmentsOf, List.splitOn_cons_eq_if_modifyHead, ← ih]
    by_cases hc : c = separator
    · simp [hc]
    · rw [if_neg hc, if_neg (by simpa using hc)]
      cases hrest : segmentsOf separator rest with
      | nil => exact absurd hrest (segmentsOf_ne_nil separator rest)
      | cons first more => rfl

/-- The separator does not occur in the parts. -/
theorem notMem_of_mem_segmentsOf {s part : List Char} (h : part ∈ segmentsOf separator s) : separator ∉ part := by
  induction s generalizing part with
  | nil =>
    rw [List.mem_singleton.mp h]
    exact List.not_mem_nil
  | cons c rest ih =>
    unfold segmentsOf at h
    split at h
    · rcases List.mem_cons.mp h with rfl | h
      · exact List.not_mem_nil
      · exact ih h
    · rename_i hc
      split at h
      · rename_i first more hrest
        rw [hrest] at ih
        rcases List.mem_cons.mp h with rfl | h
        · exact List.not_mem_cons_of_ne_of_not_mem (Ne.symm hc) (ih List.mem_cons_self)
        · exact ih (List.mem_cons_of_mem first h)
      · rename_i hrest
        exact absurd hrest (segmentsOf_ne_nil separator rest)

/-- A text is cut into its segments. -/
theorem separates_segments (separator : Char) (s : String) : Separates separator (segments separator s) s where
  nonempty := by simp [segments, segmentsOf_ne_nil]
  free part h := by
    obtain ⟨cs, hcs, rfl⟩ := List.mem_map.mp h
    rw [String.toList_ofList]
    exact notMem_of_mem_segmentsOf hcs
  joined := by
    have hparts : (segments separator s).map String.toList = s.toList.splitOn separator := by
      rw [segments, List.map_map, ← segmentsOf_eq_splitOn]
      exact List.map_id'' (fun cs => String.toList_ofList) _
    rw [← String.toList_inj, String.toList_intercalate, String.toList_singleton, hparts, List.intercalate_splitOn]

/-- There is no other way to cut it. -/
theorem Separates.segments_eq {parts : List String} {s : String} (h : Separates separator parts s) :
    segments separator s = parts := by
  have hfree : ∀ cs ∈ parts.map String.toList, separator ∉ cs := by
    intro cs hcs
    obtain ⟨part, hpart, rfl⟩ := List.mem_map.mp hcs
    exact h.free part hpart
  have hsplit : s.toList.splitOn separator = parts.map String.toList := by
    rw [← h.joined, String.toList_intercalate, String.toList_singleton,
      List.splitOn_intercalate separator hfree (by simpa using h.nonempty)]
  rw [segments, segmentsOf_eq_splitOn, hsplit, List.map_map]
  exact List.map_id'' (fun part => String.ofList_toList) _

/-- The segments of a text are its parts without the separator. -/
theorem segments_eq_iff {parts : List String} {s : String} : segments separator s = parts ↔ Separates separator parts s :=
  ⟨fun h => h ▸ separates_segments separator s, Separates.segments_eq⟩

/-- Two texts with the separator between them have the segments of the first, and then those of the second. -/
theorem segments_append (separator : Char) (s t : String) :
    segments separator (s ++ String.singleton separator ++ t) = segments separator s ++ segments separator t := by
  have hlist : (s ++ String.singleton separator ++ t).toList = s.toList ++ separator :: t.toList := by simp
  simp only [segments, hlist, segmentsOf_eq_splitOn, List.splitOn_append_cons_self, List.map_append]

end Schemata.Text
