/-!
# Cutting texts

`segments` cuts a text at every occurrence of a character; `cutAt?` cuts it at the first occurrence of another text.
-/

namespace Schemata.Text

/-- The parts of a list between the occurrences of a separator; there is always one part more than there are separators. -/
def segmentsOf (separator : Char) : List Char → List (List Char)
  | [] => [[]]
  | c :: rest =>
    if c = separator then [] :: segmentsOf separator rest
    else
      match segmentsOf separator rest with
      | first :: more => (c :: first) :: more
      | [] => [[c]]

/-- The parts of a text between the occurrences of a separator. -/
def segments (separator : Char) (s : String) : List String :=
  (segmentsOf separator s.toList).map String.ofList

/-- What stands before and after the first occurrence of a mark in a list. -/
def cutListAt? (mark : List Char) : List Char → Option (List Char × List Char)
  | [] => if mark = [] then some ([], []) else none
  | c :: rest =>
    if mark.isPrefixOf (c :: rest) then some ([], (c :: rest).drop mark.length)
    else (cutListAt? mark rest).map fun (before, after) => (c :: before, after)

/-- What stands before and after the first occurrence of a mark in a text. -/
def cutAt? (mark s : String) : Option (String × String) :=
  (cutListAt? mark.toList s.toList).map fun (before, after) => (String.ofList before, String.ofList after)

/-- A mark occurs in a text. -/
def occursIn (mark s : String) : Bool :=
  (cutAt? mark s).isSome

theorem segmentsOf_ne_nil (separator : Char) (s : List Char) : segmentsOf separator s ≠ [] := by
  cases s with
  | nil => simp [segmentsOf]
  | cons c rest =>
    unfold segmentsOf
    split
    · simp
    · split <;> simp

/-- The parts of a cut, with the mark between them, are the text. -/
theorem eq_append_of_cutListAt? {mark s before after : List Char} (h : cutListAt? mark s = some (before, after)) :
    s = before ++ mark ++ after := by
  induction s generalizing before with
  | nil =>
    unfold cutListAt? at h
    split at h
    · simp_all
    · cases h
  | cons c rest ih =>
    unfold cutListAt? at h
    split at h
    · rename_i hp
      cases h
      obtain ⟨t, ht⟩ := List.isPrefixOf_iff_prefix.mp hp
      simp [← ht]
    · obtain ⟨⟨b, a⟩, hb, heq⟩ := Option.map_eq_some_iff.mp h
      cases heq
      simp [ih hb]

end Schemata.Text
