import Mathlib.Data.List.TakeWhile
import Schemata.Proofs.Unicode.Blanks
import Schemata.Settings.Variable

/-!
# Variables that are texts

The text of a variable is read as a value, and so may come out as something else than a text. An ordinary word does not: it is read as
it stands (`variableValue_of_word`).
-/

namespace Schemata.Settings

/-- A text without blanks is trimmed to itself. -/
theorem trimmed_of_plain {s : List Char} (h : ∀ c ∈ s, Unicode.whiteSpace.contains c = false) : trimmed s = s := by
  have hkeep : ∀ {l : List Char}, (∀ c ∈ l, c ∈ s) → l.dropWhile Unicode.whiteSpace.contains = l := fun hl =>
    List.dropWhile_eq_self_iff.mpr fun _ => by simp [h _ (hl _ (List.getElem_mem _))]
  unfold trimmed
  simp only [hkeep fun _ hc => hc, hkeep fun _ hc => List.mem_reverse.mp hc, List.reverse_reverse]

/-- The value of a variable whose text is read to its end. -/
theorem variableValue_eq {s : String} {t : List Char} {v : Json} {r : NoLonger t} (ht : afterBlank s.toList = t)
    (hv : value? t = some (v, r)) (hr : afterBlank r.1 = []) : variableValue s = v := by
  subst ht
  unfold variableValue
  rw [hv]
  exact if_pos hr

section

variable {c : Char} (letter : c.isAlpha = true)

include letter

theorem ne_of_letter {d : Char} (h : d.isAlpha = false) : c ≠ d := by
  rintro rfl
  rw [letter] at h
  cases h

theorem isDigit_of_letter : c.isDigit = false := by
  have hletter : (decide ('A'.val ≤ c.val ∧ c.val ≤ 'Z'.val) || (decide ('a'.val ≤ c.val) && decide (c.val ≤ 'z'.val))) = true :=
    letter
  show (decide ('0'.val ≤ c.val) && decide (c.val ≤ '9'.val)) = false
  simp only [Bool.or_eq_true, Bool.and_eq_true, decide_eq_true_eq, UInt32.le_iff_toNat_le] at hletter
  simp only [Bool.and_eq_false_iff, decide_eq_false_iff_not, UInt32.le_iff_toNat_le]
  have h9 : '9'.val.toNat = 57 := rfl
  have hA : 'A'.val.toNat = 65 := rfl
  have ha : 'a'.val.toNat = 97 := rfl
  omega

/-- What starts with a letter has no sign in front. -/
theorem cons_ne_of_letter {d : Char} {cs rest : List Char} (h : d.isAlpha = false) : c :: cs ≠ d :: rest :=
  fun heq => ne_of_letter letter h (List.cons.inj heq).1

/-- So it is no number with a point, -/
theorem pointed?_of_letter (cs : List Char) : pointed? (c :: cs) = none := by
  have hdrop : (c :: cs).dropWhile Char.isDigit = c :: cs :=
    List.dropWhile_cons_of_neg (by simp [isDigit_of_letter letter])
  unfold pointed?
  split
  rename_i negative s heq
  have hs : s = c :: cs := by
    split at heq
    · exact absurd ‹_› (cons_ne_of_letter letter rfl)
    · exact absurd ‹_› (cons_ne_of_letter letter rfl)
    · exact (Prod.mk.inj heq).2.symm
  subst hs
  simp only [hdrop]
  split
  · exact absurd ‹_› (cons_ne_of_letter letter rfl)
  · rfl

/-- and no whole number. -/
theorem whole?_of_letter (cs : List Char) : whole? (c :: cs) = none := by
  unfold whole?
  split
  rename_i negative s heq
  have hs : s = c :: cs := by
    split at heq
    · exact absurd ‹_› (cons_ne_of_letter letter rfl)
    · exact absurd ‹_› (cons_ne_of_letter letter rfl)
    · exact (Prod.mk.inj heq).2.symm
  subst hs
  exact if_pos (.inr (by simp [isDigit_of_letter letter]))

end

/-- A text that starts with a letter, though not with a truth value, and has neither blanks nor brackets nor commas in it is read as
it stands. -/
theorem variableValue_of_word {s : String} {c : Char} {cs : List Char} (hs : s.toList = c :: cs) (letter : c.isAlpha = true)
    (plain : ∀ d ∈ c :: cs, isSeparator d = false ∧ Unicode.whiteSpace.contains d = false)
    (notTrue : ¬ ['t', 'r', 'u', 'e'] <+: c :: cs) (notFalse : ¬ ['f', 'a', 'l', 's', 'e'] <+: c :: cs) :
    variableValue s = .str s := by
  have hbare : bareValue (c :: cs) = .str s := by
    have htrimmed : trimmed (c :: cs) = c :: cs := trimmed_of_plain fun d hd => (plain d hd).2
    unfold bareValue
    rw [htrimmed, pointed?_of_letter letter, whole?_of_letter letter, ← hs, String.ofList_toList]
    rfl
  have htake : (c :: cs).takeWhile (fun d => !isSeparator d) = c :: cs :=
    List.takeWhile_eq_self_iff.mpr fun d hd => by simp [(plain d hd).1]
  have hdrop : (c :: cs).dropWhile (fun d => !isSeparator d) = [] :=
    List.dropWhile_eq_nil_iff.mpr fun d hd => by simp [(plain d hd).1]
  have hblank : afterBlank s.toList = c :: cs := by
    rw [hs]
    refine List.dropWhile_cons_of_neg ?_
    simp [isBlank, ne_of_letter letter (d := ' ') rfl, ne_of_letter letter (d := '\t') rfl, ne_of_letter letter (d := '\n') rfl,
      ne_of_letter letter (d := '\x0c') rfl, ne_of_letter letter (d := '\r') rfl]
  have hvalue : ∃ r : NoLonger (c :: cs), value? (c :: cs) = some (.str s, r) ∧ r.1 = [] := by
    refine ⟨⟨_, length_dropWhile_le (fun d => !isSeparator d) (c :: cs)⟩, ?_, hdrop⟩
    rw [value?, htake, hbare]
    · exact List.cons_ne_nil c cs
    · exact fun rest heq => notTrue ⟨rest, heq.symm⟩
    · exact fun rest heq => notFalse ⟨rest, heq.symm⟩
    · exact fun rest => cons_ne_of_letter letter rfl
    · exact fun rest => cons_ne_of_letter letter rfl
    · exact fun rest => cons_ne_of_letter letter rfl
    · exact fun d rest => cons_ne_of_letter letter rfl
    · exact fun rest => cons_ne_of_letter letter rfl
  obtain ⟨r, hvalue, hr⟩ := hvalue
  exact variableValue_eq hblank hvalue (by rw [hr]; rfl)

end Schemata.Settings
