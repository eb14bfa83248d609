import Mathlib.Data.String.Basic
import Schemata.Text.Segments
import Schemata.Unicode.Property

/-!
# Rows of tables, and the blanks

The parts between the blanks of a row are the segments of its characters (`splitOn_blank`), so a set can be read off its table. The set
of blanks is one that everything which trims texts depends on (`whiteSpace_eq`).
-/

namespace Schemata.Unicode

open String

/-- Splitting that has come to a place of a text gives the parts before it, and then the segments from there on, the characters since
the last blank before the first of them. -/
theorem splitOnAux_blank (l m r : List Char) (parts : List String) :
    splitOnAux (ofList (l ++ m ++ r)) " " ⟨utf8Len l⟩ ⟨utf8Len (l ++ m)⟩ 0 parts =
      parts.reverse ++ ((Text.segmentsOf ' ' r).modifyHead (m ++ ·)).map ofList := by
  induction r generalizing l m parts with
  | nil =>
    have hextract := extract_of_valid l m []
    rw [← utf8Len_append] at hextract
    rw [splitOnAux, if_pos ((atEnd_of_valid (l ++ m) []).mpr rfl)]
    simp only [hextract]
    simp [Text.segmentsOf]
  | cons c rest ih =>
    have hextract := extract_of_valid l m (c :: rest)
    rw [← utf8Len_append] at hextract
    have hend : ¬ Pos.Raw.atEnd (ofList (l ++ m ++ c :: rest)) ⟨utf8Len (l ++ m)⟩ = true :=
      mt (atEnd_of_valid (l ++ m) (c :: rest)).mp (List.cons_ne_nil c rest)
    rw [splitOnAux, if_neg hend, get_of_valid, List.headD_cons, show Pos.Raw.get " " 0 = ' ' by decide]
    by_cases hc : c = ' '
    · subst hc
      have hsep : Pos.Raw.next " " 0 = ⟨1⟩ := by decide
      have hback : Pos.Raw.unoffsetBy ⟨utf8Len (l ++ m) + 1⟩ ⟨1⟩ = ⟨utf8Len (l ++ m)⟩ := by
        simp [Pos.Raw.unoffsetBy]
      have hnext : Pos.Raw.next (ofList (l ++ m ++ ' ' :: rest)) ⟨utf8Len (l ++ m)⟩ = ⟨utf8Len (l ++ m) + 1⟩ :=
        next_of_valid (l ++ m) ' ' rest
      have hlen : utf8Len (l ++ m ++ [' ']) = utf8Len (l ++ m) + 1 := by
        rw [utf8Len_append (l ++ m)]
        rfl
      have hrest := ih (l ++ m ++ [' ']) [] (ofList m :: parts)
      rw [List.append_nil, hlen, List.append_assoc (l ++ m), List.singleton_append] at hrest
      simp only [beq_self_eq_true, if_true, hsep, hnext, hback, hextract]
      rw [if_pos (by decide), hrest, Text.segmentsOf, if_pos rfl, List.reverse_cons, List.append_assoc, List.modifyHead_cons,
        List.append_nil]
      congr 1
      cases Text.segmentsOf ' ' rest <;> simp
    · have hstay : Pos.Raw.unoffsetBy ⟨utf8Len (l ++ m)⟩ 0 = ⟨utf8Len (l ++ m)⟩ := by
        simp [Pos.Raw.unoffsetBy]
      have hlist : l ++ (m ++ [c]) ++ rest = l ++ m ++ c :: rest := by simp
      have hlen : utf8Len (l ++ (m ++ [c])) = utf8Len (l ++ m) + c.utf8Size := by
        simp [utf8Len_append, Nat.add_assoc]
      have hrest := ih l (m ++ [c]) parts
      rw [hlist, hlen] at hrest
      rw [if_neg (by simpa using hc), hstay, next_of_valid, hrest, Text.segmentsOf, if_neg hc]
      cases hs : Text.segmentsOf ' ' rest with
      | nil => exact absurd hs (Text.segmentsOf_ne_nil ' ' rest)
      | cons first more => simp

/-- Splitting a text at blanks gives its segments. -/
theorem splitOn_blank (s : String) : s.splitOn " " = Text.segments ' ' s := by
  have h := splitOnAux_blank [] [] s.toList []
  have hhead : (Text.segmentsOf ' ' s.toList).modifyHead ([] ++ ·) = Text.segmentsOf ' ' s.toList := by
    cases Text.segmentsOf ' ' s.toList <;> rfl
  rw [hhead] at h
  simpa [splitOn, Text.segments] using h

/-- The blanks, by code points. -/
theorem whiteSpace_eq :
    whiteSpace =
      [(9, 13), (32, 32), (133, 133), (160, 160), (5760, 5760), (8192, 8202), (8232, 8233), (8239, 8239), (8287, 8287),
        (12288, 12288)] := by
  unfold whiteSpace binary CharSet.lookup? CharSet.ofRow
  simp only [splitOn_blank]
  rfl

end Schemata.Unicode
