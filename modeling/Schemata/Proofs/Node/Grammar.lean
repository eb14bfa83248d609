import Schemata.Proofs.Node.Encoding
import Schemata.Proofs.Schema.Localisation

/-!
# What can be read as a description

An object that stands for a pattern can be at fault in four ways (`Json.Defect`), and nothing else in a document can. So a document is
read as a description (`Json.ReadsAs`) unless some pattern in it is at fault; else the fault that is reported is the first in the order
of the document, and of that pattern the first in the order of the four ways (`Node.decode_accepts_grammar`).
-/

namespace Schemata

/-- Of two steps one at most is before the other. -/
theorem Step.Before.asymm {a b : Step} (h : a.Before b) : ¬b.Before a := by
  cases a with
  | key a =>
    cases b with
    | key b => exact String.lt_asymm h
    | index j => exact h.elim
  | index i =>
    cases b with
    | key b => exact h.elim
    | index j => exact Nat.lt_asymm h

namespace Json

/-! ## Patterns in a document -/

/-- An object stands for a pattern: it has the text of one, and nothing beside it but flags. -/
def StandsForPattern (members : Members) : Prop :=
  "$regex" ∈ members.keys ∧ ∀ key ∈ members.keys, key = "$regex" ∨ key = "$flags"

instance (members : Members) : Decidable (StandsForPattern members) :=
  inferInstanceAs (Decidable (_ ∧ _))

/-- The values directly in a document, in its order, with the steps to them. What stands for a pattern is not looked into. -/
def parts : Json → List (Step × Json)
  | .arr items => items.zipIdx.map fun (item, i) => (.index i, item)
  | .obj members => if StandsForPattern members then [] else members.map fun (key, v) => (.key key, v)
  | _ => []

/-- A path leads to an object that stands for a pattern, through nothing that does. -/
inductive HasPattern : Json → List Step → Members → Prop where
  | here {members : Members} (stands : StandsForPattern members) : HasPattern (.obj members) [] members
  | inPart {v part : Json} {step : Step} {path : List Step} {members : Members} (isPart : (step, part) ∈ v.parts)
      (rest : HasPattern part path members) : HasPattern v (step :: path) members

/-- What can be wrong with an object that stands for a pattern, numbered in the order in which it is looked for: its text is none, its
flags are no text, a flag is none of the four there are, or the text with the flags in front of it is no regular expression. -/
inductive Defect (members : Members) : Nat → DecodeError → Prop where
  | noText (h : ∀ s, Mapping.get? members "$regex" ≠ some (.str s)) : Defect members 0 (.notText "$regex")
  | noFlags {v : Json} (h : Mapping.get? members "$flags" = some v) (noText : ∀ s, v ≠ .str s) :
      Defect members 1 (.notText "$flags")
  | strayFlag {flags : String} {before after : List Char} {c : Char} (h : Mapping.get? members "$flags" = some (.str flags))
      (cut : flags.toList = before ++ c :: after) (fine : ∀ d ∈ before, d ∈ ['i', 'm', 's', 'x'])
      (stray : c ∉ ['i', 'm', 's', 'x']) : Defect members 2 (.unsupportedFlag c)
  | invalid {source : String} {fault : Pattern.Fault} (h : Mapping.get? members "$regex" = some (.str source))
      (fails : Pattern.compile (writtenPattern members) = .error fault) : Defect members 3 (.invalidPattern source fault)

/-- The first defect of an object that stands for a pattern. -/
def FirstDefect (members : Members) (e : DecodeError) : Prop :=
  ∃ rank, Defect members rank e ∧ ∀ other e', Defect members other e' → rank ≤ other

/-- The first defect of the first pattern in a document that has any. -/
def FirstFault (v : Json) (e : DecodeError) : Prop :=
  ∃ path members, v.HasPattern path members ∧ FirstDefect members e ∧
    ∀ path' members' rank e', v.HasPattern path' members' → Defect members' rank e' →
      (path' = path ∧ members' = members) ∨ List.Lex Step.Before path path'

/-- A document is read as a description: scalars as themselves, arrays item by item, what stands for a pattern and has no defect as
the pattern it writes, and every other object member by member, under the same keys. -/
inductive ReadsAs : Json → Node → Prop where
  | null : ReadsAs .null .null
  | bool (b : Bool) : ReadsAs (.bool b) (.bool b)
  | num (n : Number) : ReadsAs (.num n) (.num n)
  | str (s : String) : ReadsAs (.str s) (.str s)
  | seq {items : List Json} {ns : List Node} (h : List.Forall₂ ReadsAs items ns) : ReadsAs (.arr items) (.seq ns)
  | pattern {members : Members} {p : Pattern} (stands : StandsForPattern members) (sound : ∀ rank e, ¬Defect members rank e)
      (written : p.source = writtenPattern members) : ReadsAs (.obj members) (.pattern p)
  | map {members : Members} {fields : List (String × Node)} (other : ¬StandsForPattern members)
      (keys : Mapping.keys fields = members.keys) (h : List.Forall₂ ReadsAs (members.map Prod.snd) (fields.map Prod.snd)) :
      ReadsAs (.obj members) (.map fields)

/-! ## Faults -/

/-- Of two defects of one number, both are the same. -/
theorem Defect.unique {members : Members} {rank : Nat} {e e' : DecodeError} (h : Defect members rank e)
    (h' : Defect members rank e') : e = e' := by
  -- A stray flag with none before it is the one that is found.
  have hfound : ∀ {flags : String} {before after : List Char} {c : Char}, flags.toList = before ++ c :: after →
      (∀ d ∈ before, d ∈ ['i', 'm', 's', 'x']) → c ∉ ['i', 'm', 's', 'x'] →
      flags.toList.find? (fun d => decide (d ∉ ['i', 'm', 's', 'x'])) = some c := fun hcut hfine hstray =>
    List.find?_eq_some_iff_append.mpr ⟨decide_eq_true hstray, _, _, hcut, fun d hd => by simpa using hfine d hd⟩
  cases h with
  | noText =>
    cases h'
    rfl
  | noFlags =>
    cases h'
    rfl
  | strayFlag hget hcut hfine hstray =>
    cases h' with
    | strayFlag hget' hcut' hfine' hstray' =>
      cases hget.symm.trans hget'
      rw [Option.some.inj ((hfound hcut hfine hstray).symm.trans (hfound hcut' hfine' hstray'))]
  | invalid hget hfails =>
    cases h' with
    | invalid hget' hfails' =>
      cases hget.symm.trans hget'
      cases hfails.symm.trans hfails'
      rfl

/-- There is one first defect at most. -/
theorem FirstDefect.unique {members : Members} {e e' : DecodeError} (h : FirstDefect members e)
    (h' : FirstDefect members e') : e = e' := by
  obtain ⟨rank, hd, hleast⟩ := h
  obtain ⟨rank', hd', hleast'⟩ := h'
  obtain rfl : rank = rank' := Nat.le_antisymm (hleast rank' e' hd') (hleast' rank e hd)
  exact hd.unique hd'

/-- There is one first fault at most. -/
theorem FirstFault.unique {v : Json} {e e' : DecodeError} (h : v.FirstFault e) (h' : v.FirstFault e') : e = e' := by
  obtain ⟨path, members, hpattern, hfirst, hlater⟩ := h
  obtain ⟨path', members', hpattern', hfirst', hlater'⟩ := h'
  obtain ⟨rank, hd, -⟩ := id hfirst
  obtain ⟨rank', hd', -⟩ := id hfirst'
  rcases hlater path' members' rank' e' hpattern' hd' with ⟨rfl, rfl⟩ | hlex
  · exact hfirst.unique hfirst'
  · rcases hlater' path members rank e hpattern hd with ⟨rfl, rfl⟩ | hlex'
    · exact hfirst.unique hfirst'
    · exact absurd hlex' (List.lex_asymm Step.Before.asymm hlex)

/-! ## What is directly in a document -/

theorem parts_obj_of_stands {members : Members} (h : StandsForPattern members) : (Json.obj members).parts = [] :=
  if_pos h

theorem parts_obj_of_other {members : Members} (h : ¬StandsForPattern members) :
    (Json.obj members).parts = members.map fun member => (.key member.1, member.2) :=
  if_neg h

/-- What is directly in a document is an item of an array, or a member of an object that stands for no pattern. -/
theorem mem_parts {v : Json} {entry : Step × Json} (h : entry ∈ v.parts) :
    (∃ items, v = .arr items ∧ entry.2 ∈ items) ∨
      ∃ members, v = .obj members ∧ ∃ member ∈ members, member.2 = entry.2 := by
  cases v with
  | arr items =>
    obtain ⟨⟨item, i⟩, hm, rfl⟩ := List.mem_map.mp h
    exact Or.inl ⟨items, rfl, List.fst_mem_of_mem_zipIdx hm⟩
  | obj members =>
    by_cases hs : StandsForPattern members
    · rw [parts_obj_of_stands hs] at h
      cases h
    · rw [parts_obj_of_other hs] at h
      obtain ⟨member, hm, rfl⟩ := List.mem_map.mp h
      exact Or.inr ⟨members, rfl, member, hm, rfl⟩
  | _ => cases h

/-- What is directly in a document is smaller. -/
theorem sizeOf_part_lt {v : Json} {entry : Step × Json} (h : entry ∈ v.parts) : sizeOf entry.2 < sizeOf v := by
  rcases mem_parts h with ⟨items, rfl, hm⟩ | ⟨members, rfl, ⟨key, w⟩, hm, rfl⟩
  · have hlt := List.sizeOf_lt_of_mem hm
    simp only [Json.arr.sizeOf_spec]
    omega
  · have hlt := List.sizeOf_lt_of_mem hm
    simp only [Json.obj.sizeOf_spec, Prod.mk.sizeOf_spec] at hlt ⊢
    omega

/-- Induction on documents: a property that passes from what is directly in a document to the document holds of all. -/
theorem induct {motive : Json → Prop} (step : ∀ v : Json, (∀ entry ∈ v.parts, motive entry.2) → motive v) (v : Json) :
    motive v :=
  step v fun entry h =>
    have := sizeOf_part_lt h
    induct step entry.2
termination_by sizeOf v

/-- What holds of every object in a document holds of every object in what is directly in it. -/
theorem allObjects_part {P : Members → Prop} {v : Json} (h : v.AllObjects P) {entry : Step × Json} (hm : entry ∈ v.parts) :
    entry.2.AllObjects P := by
  rcases mem_parts hm with ⟨items, rfl, hitem⟩ | ⟨members, rfl, member, hmember, heq⟩
  · exact (allObjects_arr_iff items).mp h entry.2 hitem
  · exact heq ▸ ((allObjects_obj_iff members).mp h).2 member hmember

/-- What is directly in a document comes in the order of the steps. -/
theorem pairwise_parts {v : Json} (ordered : v.AllObjects Mapping.Ordered) : v.parts.Pairwise fun a b => a.1.Before b.1 := by
  cases v with
  | arr items =>
    show (items.zipIdx.map _).Pairwise _
    rw [List.pairwise_map]
    exact pairwise_zipIdx items
  | obj members =>
    by_cases hs : StandsForPattern members
    · rw [parts_obj_of_stands hs]
      exact List.Pairwise.nil
    · rw [parts_obj_of_other hs, List.pairwise_map]
      exact ordered members .here
  | _ => exact List.Pairwise.nil

end Json

namespace Node

/-! ## Patterns -/

theorem isPatternLiteral_iff (members : Members) : isPatternLiteral members = true ↔ Json.StandsForPattern members := by
  rw [isPatternLiteral, Bool.and_eq_true, Mapping.contains_eq_keys_contains, List.contains_iff_mem, List.all_eq_true]
  simp only [Bool.or_eq_true, beq_iff_eq]
  rfl

theorem isFlag_iff (c : Char) : isFlag c = true ↔ c ∈ ['i', 'm', 's', 'x'] := by
  simp [isFlag, or_assoc]

/-- Where no stray flag is found, every flag is one of the four. -/
theorem mem_flags_of_find?_eq_none {cs : List Char} (h : cs.find? (!isFlag ·) = none) {c : Char} (hc : c ∈ cs) :
    c ∈ ['i', 'm', 's', 'x'] := by
  have hflag := List.find?_eq_none.mp h c hc
  rw [← isFlag_iff]
  simpa using hflag

/-- There is no text under a key because nothing is there and that is the error, or because something else is. -/
theorem textUnder_eq_error {members : Members} {key : String} {absent : Except DecodeError String} {e : DecodeError}
    (h : textUnder members key absent = .error e) :
    (members.get? key = none ∧ absent = .error e) ∨
      ∃ v, members.get? key = some v ∧ (∀ s, v ≠ .str s) ∧ e = .notText key := by
  unfold textUnder at h
  split at h
  · rename_i hnone
    exact Or.inl ⟨hnone, h⟩
  · cases h
  · rename_i v hstr hv
    cases h
    exact Or.inr ⟨v, hv, hstr, rfl⟩

/-- The text of a pattern, where there is one. -/
theorem get?_pattern {members : Members} {source : String}
    (h : textUnder members patternKey (.error (.notText patternKey)) = .ok source) :
    members.get? "$regex" = some (.str source) :=
  (textUnder_eq_ok_iff.mp h).resolve_right fun hnone => nomatch hnone.2

/-- The flags of a pattern, where there are any. -/
theorem eq_of_get?_flags {members : Members} {flags : String} (h : textUnder members flagsKey (.ok "") = .ok flags) {v : Json}
    (hv : members.get? "$flags" = some v) : v = .str flags := by
  rcases textUnder_eq_ok_iff.mp h with hf | ⟨hf, -⟩
  · exact Option.some.inj (hv.symm.trans hf)
  · cases hv.symm.trans hf

/-- A pattern that decodes has no defect. -/
theorem not_defect_of_decodePattern {members : Members} {p : Pattern} (h : decodePattern members = .ok p) (rank : Nat)
    (e : DecodeError) : ¬Json.Defect members rank e := by
  have hwritten := source_of_decodePattern h
  obtain ⟨source, hsource, h⟩ := bind_eq_ok_iff.mp h
  obtain ⟨flags, hflags, h⟩ := bind_eq_ok_iff.mp h
  have hfine : flags.toList.find? (!isFlag ·) = none := by
    split at h
    · cases h
    · assumption
  intro hd
  cases hd with
  | noText hnone => exact hnone source (get?_pattern hsource)
  | noFlags hget hnone => exact hnone flags (eq_of_get?_flags hflags hget)
  | strayFlag hget hcut _ hstray =>
    cases eq_of_get?_flags hflags hget
    exact hstray (mem_flags_of_find?_eq_none hfine (hcut ▸ List.mem_append_right _ List.mem_cons_self))
  | invalid hget hfails =>
    rw [← hwritten, p.compile_source] at hfails
    cases hfails

/-- What is reported of a pattern is its first defect. -/
theorem firstDefect_of_decodePattern {members : Members} {e : DecodeError} (h : decodePattern members = .error e) :
    Json.FirstDefect members e := by
  rcases bind_eq_error_iff.mp h with h | ⟨source, hsource, h⟩
  · refine ⟨0, ?_, fun _ _ _ => Nat.zero_le _⟩
    rcases textUnder_eq_error h with ⟨hnone, he⟩ | ⟨v, hv, hstr, rfl⟩
    · cases he
      exact .noText fun s hs => nomatch hnone.symm.trans hs
    · exact .noText fun s hs => hstr s (Option.some.inj (hv.symm.trans hs))
  have hregex := get?_pattern hsource
  rcases bind_eq_error_iff.mp h with h | ⟨flags, hflags, h⟩
  · rcases textUnder_eq_error h with ⟨-, he⟩ | ⟨v, hv, hstr, rfl⟩
    · cases he
    · refine ⟨1, .noFlags hv hstr, fun other e' hd => ?_⟩
      cases hd with
      | noText hnone => exact (hnone source hregex).elim
      | _ => decide
  -- The text and the flags are there; it is for the flags one by one, and then for the whole.
  split at h
  · rename_i c hc
    cases h
    obtain ⟨hstray, before, after, hcut, hfine⟩ := List.find?_eq_some_iff_append.mp hc
    have hget : members.get? "$flags" = some (.str flags) := by
      rcases textUnder_eq_ok_iff.mp hflags with hf | ⟨-, he⟩
      · exact hf
      · cases he
        simp at hcut
    refine ⟨2, .strayFlag hget hcut (fun d hd => (isFlag_iff d).mp (by simpa using hfine d hd)) ?_, fun other e' hd => ?_⟩
    · rwa [← isFlag_iff, Bool.not_eq_true, ← Bool.not_eq_true']
    · cases hd with
      | noText hnone => exact (hnone source hregex).elim
      | noFlags hv hnone => exact (hnone flags (eq_of_get?_flags hflags hv)).elim
      | _ => decide
  · rename_i hfine
    obtain ⟨fault, hfails, rfl⟩ := mapError_eq_error_iff.mp h
    rw [← writtenPattern_eq_foldFlags hsource hflags] at hfails
    refine ⟨3, .invalid hregex hfails, fun other e' hd => ?_⟩
    cases hd with
    | noText hnone => exact (hnone source hregex).elim
    | noFlags hv hnone => exact (hnone flags (eq_of_get?_flags hflags hv)).elim
    | strayFlag hv hcut _ hstray =>
      cases eq_of_get?_flags hflags hv
      exact (hstray (mem_flags_of_find?_eq_none hfine (hcut ▸ List.mem_append_right _ List.mem_cons_self))).elim
    | invalid => exact Nat.le_refl 3

/-! ## Documents -/

/-- What is directly in a document that decodes decodes. -/
theorem exists_decode_part {v : Json} {n : Node} (h : decode v = .ok n) {entry : Step × Json} (hm : entry ∈ v.parts) :
    ∃ m, decode entry.2 = .ok m := by
  cases v with
  | arr items =>
    obtain ⟨⟨item, i⟩, hi, rfl⟩ := List.mem_map.mp hm
    obtain ⟨ns, hns, -⟩ := bind_eq_ok_iff.mp h
    have hall := decodeItems_eq_ok_iff.mp hns
    have hitem : ∀ item ∈ items, ∃ m, decode item = .ok m := forall_of_forall₂ hall.flip fun n _ _ hn => ⟨n, hn⟩
    exact hitem item (List.fst_mem_of_mem_zipIdx hi)
  | obj members =>
    by_cases hs : Json.StandsForPattern members
    · rw [Json.parts_obj_of_stands hs] at hm
      cases hm
    · rw [decode, if_neg (mt (isPatternLiteral_iff members).mp hs)] at h
      obtain ⟨fields, hfields, -⟩ := bind_eq_ok_iff.mp h
      rw [Json.parts_obj_of_other hs] at hm
      obtain ⟨member, hmember, rfl⟩ := List.mem_map.mp hm
      have hall := decodeMembers_eq_ok_iff.mp hfields
      have hvalue : ∀ member ∈ members, ∃ m, decode member.2 = .ok m :=
        forall_of_forall₂ hall.flip fun field _ _ hn => ⟨field.2, hn.2⟩
      exact hvalue member hmember
  | _ => cases hm

/-- A document fails to decode at an object that stands for a pattern, or at the first part of it that fails. -/
theorem decode_eq_error {v : Json} {e : DecodeError} (h : decode v = .error e) :
    (∃ members, v = .obj members ∧ Json.StandsForPattern members ∧ decodePattern members = .error e) ∨
      ∃ before entry after, v.parts = before ++ entry :: after ∧ (∀ earlier ∈ before, ∃ n, decode earlier.2 = .ok n) ∧
        decode entry.2 = .error e := by
  cases v with
  | arr items =>
    rcases bind_eq_error_iff.mp h with h | ⟨ns, -, h⟩
    · rw [decodeItems_eq_mapM, mapM_eq_error_iff] at h
      obtain ⟨before, item, after, rfl, hbefore, hitem⟩ := h
      refine Or.inr ⟨before.zipIdx.map fun (item, i) => (.index i, item), (.index before.length, item),
        (after.zipIdx (before.length + 1)).map fun (item, i) => (.index i, item), ?_, ?_, hitem⟩
      · simp [Json.parts, List.zipIdx_append]
      · intro earlier he
        obtain ⟨⟨item, i⟩, hi, rfl⟩ := List.mem_map.mp he
        exact hbefore item (List.fst_mem_of_mem_zipIdx hi)
    · cases h
  | obj members =>
    by_cases hs : Json.StandsForPattern members
    · rw [decode, if_pos ((isPatternLiteral_iff members).mpr hs)] at h
      rcases bind_eq_error_iff.mp h with h | ⟨p, -, h⟩
      · exact Or.inl ⟨members, rfl, hs, h⟩
      · cases h
    · rw [decode, if_neg (mt (isPatternLiteral_iff members).mp hs)] at h
      rcases bind_eq_error_iff.mp h with h | ⟨fields, -, h⟩
      · rw [decodeMembers_eq_mapM, mapM_eq_error_iff] at h
        obtain ⟨before, member, after, rfl, hbefore, hmember⟩ := h
        refine Or.inr ⟨before.map fun member => (.key member.1, member.2), (.key member.1, member.2),
          after.map fun member => (.key member.1, member.2), ?_, ?_, map_eq_error_iff.mp hmember⟩
        · rw [Json.parts_obj_of_other hs, List.map_append, List.map_cons]
        · intro earlier he
          obtain ⟨member, hm, rfl⟩ := List.mem_map.mp he
          obtain ⟨field, hfield⟩ := hbefore member hm
          obtain ⟨n, hn, -⟩ := map_eq_ok_iff.mp hfield
          exact ⟨n, hn⟩
      · cases h
  | _ => cases h

/-- Every pattern in a document that decodes decodes. -/
theorem exists_decodePattern {v : Json} {path : List Step} {members : Members} (h : v.HasPattern path members) {n : Node}
    (hn : decode v = .ok n) : ∃ p, decodePattern members = .ok p := by
  induction h generalizing n with
  | here stands =>
    rw [decode, if_pos ((isPatternLiteral_iff _).mpr stands)] at hn
    obtain ⟨p, hp, -⟩ := bind_eq_ok_iff.mp hn
    exact ⟨p, hp⟩
  | inPart isPart _ ih =>
    obtain ⟨m, hm⟩ := exists_decode_part hn isPart
    exact ih hm

/-- What is reported of a document is its first fault. -/
theorem firstFault_of_decode {v : Json} {e : DecodeError} (h : decode v = .error e) :
    ∃ path members, v.HasPattern path members ∧ Json.FirstDefect members e ∧
      (v.AllObjects Mapping.Ordered → ∀ path' members' rank e', v.HasPattern path' members' → Json.Defect members' rank e' →
        (path' = path ∧ members' = members) ∨ List.Lex Step.Before path path') := by
  induction v using Json.induct with
  | step v ih =>
    rcases decode_eq_error h with ⟨members, rfl, hs, hp⟩ | ⟨before, ⟨step, part⟩, after, hparts, hbefore, hpart⟩
    · refine ⟨[], members, .here hs, firstDefect_of_decodePattern hp, fun _ path' members' rank e' hpattern _ => Or.inl ?_⟩
      cases hpattern with
      | here => exact ⟨rfl, rfl⟩
      | inPart isPart _ =>
        rw [Json.parts_obj_of_stands hs] at isPart
        cases isPart
    · have hmem : (step, part) ∈ v.parts := hparts ▸ List.mem_append_right _ List.mem_cons_self
      obtain ⟨path, members, hpattern, hfirst, hlater⟩ := ih _ hmem hpart
      refine ⟨step :: path, members, .inPart hmem hpattern, hfirst, fun ordered path' members' rank e' hpattern' hd => ?_⟩
      have hpairwise := Json.pairwise_parts ordered
      cases hpattern' with
      | here stands =>
        rw [Json.parts_obj_of_stands stands] at hparts
        simp at hparts
      | inPart isPart rest =>
        rw [hparts] at isPart hpairwise
        rcases List.mem_append.mp isPart with hearlier | hlist
        -- What comes before decodes, so no pattern in it has a defect.
        · obtain ⟨n, hn⟩ := hbefore _ hearlier
          obtain ⟨p, hp⟩ := exists_decodePattern rest hn
          exact (not_defect_of_decodePattern hp rank e' hd).elim
        · rcases List.mem_cons.mp hlist with heq | hafter
          · obtain ⟨rfl, rfl⟩ := Prod.mk.inj heq
            rcases hlater (Json.allObjects_part ordered hmem) _ _ rank e' rest hd with ⟨rfl, rfl⟩ | hlex
            · exact Or.inl ⟨rfl, rfl⟩
            · exact Or.inr (.cons hlex)
          · exact Or.inr (.rel (List.rel_of_pairwise_cons (List.pairwise_append.mp hpairwise).2.1 hafter))

/-- A document with a defect in a pattern does not decode. -/
theorem exists_error_of_defect {v : Json} {path : List Step} {members : Members} {rank : Nat} {e : DecodeError}
    (h : v.HasPattern path members) (hd : Json.Defect members rank e) : ∃ e', decode v = .error e' := by
  cases hv : decode v with
  | ok n =>
    obtain ⟨p, hp⟩ := exists_decodePattern h hv
    exact (not_defect_of_decodePattern hp rank e hd).elim
  | error e' => exact ⟨e', rfl⟩

/-- Documents and runs of items and members decode to what they are read as. -/
theorem decode_of_readsAs_all :
    (∀ v n, Json.ReadsAs v n → decode v = .ok n) ∧
      (∀ (members : Members) fields, Mapping.keys fields = members.keys →
        List.Forall₂ Json.ReadsAs (members.map Prod.snd) (fields.map Prod.snd) → decodeMembers members = .ok fields) ∧
      ∀ items ns, List.Forall₂ Json.ReadsAs items ns → decodeItems items = .ok ns := by
  refine decode.mutual_induct _ _ _ ?null ?boolean ?number ?text ?list ?pattern ?mapping ?noItems ?item ?noMembers ?member
  case null =>
    rintro n ⟨⟩
    rfl
  case boolean =>
    rintro b n ⟨⟩
    rfl
  case number =>
    rintro x n ⟨⟩
    rfl
  case text =>
    rintro s n ⟨⟩
    rfl
  case list =>
    rintro items ih n ⟨⟩
    rename_i ns h
    rw [decode, ih ns h]
    rfl
  -- An object that stands for a pattern, and one that does not.
  case pattern =>
    intro members hliteral n h
    have hs := (isPatternLiteral_iff members).mp hliteral
    cases h with
    | @pattern _ p _ sound written =>
      rw [decode, if_pos hliteral]
      cases hp : decodePattern members with
      | error e =>
        obtain ⟨rank, hd, -⟩ := firstDefect_of_decodePattern hp
        exact (sound rank e hd).elim
      | ok q =>
        obtain rfl : q = p := Pattern.ext_source ((source_of_decodePattern hp).trans written.symm)
        rfl
    | map other _ _ => exact (other hs).elim
  case mapping =>
    intro members hliteral ih n h
    have hs := mt (isPatternLiteral_iff members).mpr hliteral
    cases h with
    | pattern stands _ _ => exact (hs stands).elim
    | @map _ fields _ hkeys hvalues =>
      rw [decode, if_neg hliteral, ih fields hkeys hvalues]
      rfl
  case noItems =>
    rintro ns ⟨⟩
    rfl
  case item =>
    rintro v rest ihHead ihRest ns ⟨⟩
    rename_i n ns hn hns
    rw [decodeItems, ihHead n hn, ihRest ns hns]
    rfl
  case noMembers =>
    intro fields hkeys _
    obtain rfl : fields = [] := List.map_eq_nil_iff.mp hkeys
    rfl
  case member =>
    intro key v rest ihHead ihRest fields hkeys h
    rcases fields with _ | ⟨⟨other, n⟩, more⟩
    · cases hkeys
    · obtain ⟨rfl, hmore⟩ := List.cons.inj hkeys
      obtain ⟨hn, hvalues⟩ := List.forall₂_cons.mp h
      rw [decodeMembers, ihHead n hn, ihRest more hmore hvalues]
      rfl

/-- A document that decodes is read as what it decodes to. -/
theorem readsAs_of_decode {v : Json} {n : Node} (h : decode v = .ok n) : v.ReadsAs n := by
  refine decode_induct (P := Json.ReadsAs) .null .bool .num .str ?seq ?pattern ?map v n h
  case seq => exact fun items ns hall => .seq (hall.imp fun _ _ h => h.2)
  case pattern =>
    intro members p hliteral hp
    exact .pattern ((isPatternLiteral_iff members).mp hliteral) (not_defect_of_decodePattern hp) (source_of_decodePattern hp)
  case map =>
    intro members fields hliteral hall
    refine .map (mt (isPatternLiteral_iff members).mpr (by simp [hliteral])) ?_ ?_
    · exact Mapping.keys_eq_of_forall₂ (hall.imp fun _ _ h => h.1)
    · rw [List.forall₂_map_left_iff, List.forall₂_map_right_iff]
      exact hall.imp fun _ _ h => h.2.2

/-- A document decodes unless some pattern in it has a defect, and to what it is read as. When it does not, and its members are in
order, what is reported is the first defect of its first pattern that has any. -/
theorem decode_accepts_grammar (v : Json) :
    ((∃ e, decode v = .error e) ↔ ∃ path members rank e, v.HasPattern path members ∧ Json.Defect members rank e) ∧
      (v.AllObjects Mapping.Ordered → ∀ e, decode v = .error e ↔ v.FirstFault e) ∧ ∀ n, decode v = .ok n ↔ v.ReadsAs n := by
  refine ⟨⟨?_, ?_⟩, fun ordered e => ⟨?_, ?_⟩, fun n => ⟨readsAs_of_decode, decode_of_readsAs_all.1 v n⟩⟩
  · rintro ⟨e, h⟩
    obtain ⟨path, members, hpattern, ⟨rank, hd, -⟩, -⟩ := firstFault_of_decode h
    exact ⟨path, members, rank, e, hpattern, hd⟩
  · rintro ⟨path, members, rank, e, hpattern, hd⟩
    exact exists_error_of_defect hpattern hd
  · intro h
    obtain ⟨path, members, hpattern, hfirst, hlater⟩ := firstFault_of_decode h
    exact ⟨path, members, hpattern, hfirst, hlater ordered⟩
  · intro h
    obtain ⟨_, _, hpattern, ⟨_, hd, -⟩, -⟩ := id h
    obtain ⟨e', he'⟩ := exists_error_of_defect hpattern hd
    obtain ⟨path, members, hpattern', hfirst', hlater'⟩ := firstFault_of_decode he'
    have hfound : v.FirstFault e' := ⟨path, members, hpattern', hfirst', hlater' ordered⟩
    rw [he', h.unique hfound]

namespace GrammarWitness

/-- A mapping that has flags but is no pattern, a pattern with two defects, and after them one whose text is none. -/
def faulty : Json :=
  .obj [("a", .arr [.obj [("$flags", .str "?")], .obj [("$flags", .str "ig"), ("$regex", .str "(")]]),
    ("b", .obj [("$regex", .arr [])])]

theorem ordered_faulty : faulty.AllObjects Mapping.Ordered := by
  have hkeys : "a" < "b" ∧ "$flags" < "$regex" := by decide
  have houter : ∀ a b : Json, Mapping.Ordered [("a", a), ("b", b)] := fun _ _ => List.pairwise_pair.mpr hkeys.1
  have hinner : ∀ a b : Json, Mapping.Ordered [("$flags", a), ("$regex", b)] := fun _ _ => List.pairwise_pair.mpr hkeys.2
  have hsingle : ∀ entry : String × Json, Mapping.Ordered [entry] := List.pairwise_singleton _
  simp [faulty, houter, hinner, hsingle]

/-- The stray flag is reported, and neither the bracket behind it nor the text that is missing further on. -/
theorem decode_faulty :
    faulty.AllObjects Mapping.Ordered ∧ decode faulty = .error (.unsupportedFlag 'g') ∧ faulty.FirstFault (.unsupportedFlag 'g') ∧
      ∃ path members rank e, faulty.HasPattern path members ∧ Json.Defect members rank e := by
  have hfails : decode faulty = .error (.unsupportedFlag 'g') := rfl
  obtain ⟨hdefect, hfirst, -⟩ := decode_accepts_grammar faulty
  exact ⟨ordered_faulty, hfails, (hfirst ordered_faulty _).mp hfails, hdefect.mp ⟨_, hfails⟩⟩

end GrammarWitness

end Node

end Schemata
