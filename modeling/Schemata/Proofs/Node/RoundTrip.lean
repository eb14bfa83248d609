import Schemata.Node
import Schemata.Proofs.Outcome

/-!
# Descriptions written and read again

What a document decodes to is written as a document that decodes to it again (`decode_toJson`). A pattern literal is recognised by its
keys alone, and neither decoding nor writing changes the keys of a mapping, so a mapping is never taken for a pattern; a pattern is
written with its flags in its text, and its text is the one it was compiled from.

So the text of a description is read as the description itself, as long as the text of its document is read as that document
(`read_text`).
-/

namespace Schemata

namespace Mapping

variable {α : Type}

/-- A key has a value when it is one of the keys. -/
theorem contains_eq_keys_contains (m : Mapping α) (key : String) : m.contains key = m.keys.contains key := by
  induction m with
  | nil => rfl
  | cons entry rest ih =>
    obtain ⟨k, v⟩ := entry
    unfold contains keys at ih ⊢
    by_cases h : k = key
    · simp [h]
    · simp [h, ih, Ne.symm h]

/-- Mappings that agree entry by entry in their keys have the same keys. -/
theorem keys_eq_of_forall₂ {β : Type} {m : Mapping α} {m' : Mapping β} (h : List.Forall₂ (fun a b => a.1 = b.1) m m') :
    m'.keys = m.keys := by
  induction h with
  | nil => rfl
  | cons hkey _ ih => exact congrArg₂ List.cons hkey.symm ih

end Mapping

namespace Json

/-- A text whose tokens are read as a document with nothing behind it is read as the document. -/
theorem read?_of_tokens {s : String} {ts : List Token} {v : Json} {left : Shorter ts} (htokens : tokens s.toList = ts)
    (hvalue : value? maxDepth ts = some (v, left)) (hleft : left.1 = []) : read? s = some v := by
  subst htokens
  rw [read?, readWithin, frontWithin?, hvalue]
  simp [hleft]

/-- A document that is all of a text is what stands at its front. -/
theorem front?_of_read? {s : String} {v : Json} (h : read? s = some v) : front? s = some (v, true) := by
  rw [read?, readWithin, Option.bind_eq_some_iff] at h
  obtain ⟨⟨w, isAlone⟩, hfront, h⟩ := h
  cases isAlone with
  | false => cases h
  | true =>
    cases h
    exact hfront

end Json

namespace Node

/-! ## Parts -/

theorem itemsToJson_eq_map (items : List Node) : itemsToJson items = items.map toJson := by
  induction items with
  | nil => rfl
  | cons n rest ih => rw [itemsToJson, ih, List.map_cons]

theorem fieldsToJson_eq_map (fields : List (String × Node)) :
    fieldsToJson fields = fields.map fun field => (field.1, field.2.toJson) := by
  induction fields with
  | nil => rfl
  | cons field rest ih => rw [fieldsToJson, ih, List.map_cons]

/-- Items are decoded in order. -/
theorem decodeItems_eq_mapM (items : List Json) : decodeItems items = items.mapM decode := by
  induction items with
  | nil => rfl
  | cons v rest ih =>
    rw [decodeItems, ih, List.mapM_cons]

/-- Members are decoded in order, each under its key. -/
theorem decodeMembers_eq_mapM (members : Members) :
    decodeMembers members = members.mapM fun entry => (entry.1, ·) <$> decode entry.2 := by
  induction members with
  | nil => rfl
  | cons entry rest ih =>
    rw [decodeMembers, ih, List.mapM_cons]
    cases decode entry.2 <;> rfl

/-- Items decode one by one. -/
theorem decodeItems_eq_ok_iff {items : List Json} {ns : List Node} :
    decodeItems items = .ok ns ↔ List.Forall₂ (fun v n => decode v = .ok n) items ns := by
  rw [decodeItems_eq_mapM, mapM_eq_ok_iff]

/-- Members decode one by one, each under its key. -/
theorem decodeMembers_eq_ok_iff {members : Members} {fields : List (String × Node)} :
    decodeMembers members = .ok fields ↔
      List.Forall₂ (fun entry field => entry.1 = field.1 ∧ decode entry.2 = .ok field.2) members fields := by
  have hmember : ∀ (entry : String × Json) (field : String × Node),
      ((entry.1, ·) <$> decode entry.2) = .ok field ↔ entry.1 = field.1 ∧ decode entry.2 = .ok field.2 := by
    rintro entry ⟨key, n⟩
    rw [map_eq_ok_iff]
    constructor
    · rintro ⟨m, hm, heq⟩
      obtain ⟨hkey, rfl⟩ := Prod.mk.inj heq
      exact ⟨hkey, hm⟩
    · rintro ⟨rfl, hn⟩
      exact ⟨n, hn, rfl⟩
  rw [decodeMembers_eq_mapM, mapM_eq_ok_iff]
  simp only [hmember]

/-- Induction on what decodes: a property of documents and their descriptions holds of all if it holds of scalars and of patterns, and
passes from the parts of arrays and mappings to the whole. -/
theorem decode_induct {P : Json → Node → Prop} (null : P .null .null) (bool : ∀ b, P (.bool b) (.bool b))
    (num : ∀ x, P (.num x) (.num x)) (str : ∀ s, P (.str s) (.str s))
    (seq : ∀ items ns, List.Forall₂ (fun v n => decode v = .ok n ∧ P v n) items ns → P (.arr items) (.seq ns))
    (pattern : ∀ members p, isPatternLiteral members = true → decodePattern members = .ok p → P (.obj members) (.pattern p))
    (map : ∀ (members : Members) fields, isPatternLiteral members = false →
      List.Forall₂ (fun entry field => entry.1 = field.1 ∧ decode entry.2 = .ok field.2 ∧ P entry.2 field.2) members fields →
      P (.obj members) (.map fields)) :
    ∀ v n, decode v = .ok n → P v n := by
  refine (decode.mutual_induct (fun v => ∀ n, decode v = .ok n → P v n)
    (fun members => ∀ entry ∈ members, ∀ n, decode entry.2 = .ok n → P entry.2 n)
    (fun items => ∀ v ∈ items, ∀ n, decode v = .ok n → P v n)
    ?null ?boolean ?number ?text ?list ?pattern ?mapping ?noItems ?item ?noMembers ?member).1
  case null =>
    rintro n ⟨⟩
    exact null
  case boolean =>
    rintro b n ⟨⟩
    exact bool b
  case number =>
    rintro x n ⟨⟩
    exact num x
  case text =>
    rintro s n ⟨⟩
    exact str s
  case list =>
    intro items ih n h
    rw [decode] at h
    obtain ⟨ns, hns, h⟩ := bind_eq_ok_iff.mp h
    cases h
    have hall := decodeItems_eq_ok_iff.mp hns
    exact seq items ns (List.forall₂_iff_get.mpr ⟨hall.length_eq, fun i hv hn =>
      ⟨hall.get hv hn, ih _ (List.get_mem _ _) _ (hall.get hv hn)⟩⟩)
  -- An object that stands for a pattern, and one that is a mapping.
  case pattern =>
    intro members hliteral n h
    rw [decode, if_pos hliteral] at h
    obtain ⟨p, hp, h⟩ := bind_eq_ok_iff.mp h
    cases h
    exact pattern members p hliteral hp
  case mapping =>
    intro members hliteral ih n h
    rw [decode, if_neg hliteral] at h
    obtain ⟨fields, hfields, h⟩ := bind_eq_ok_iff.mp h
    cases h
    have hall := decodeMembers_eq_ok_iff.mp hfields
    refine map members fields (Bool.eq_false_iff.mpr hliteral) (List.forall₂_iff_get.mpr ⟨hall.length_eq, fun i hv hn => ?_⟩)
    obtain ⟨hkey, hdecode⟩ := hall.get hv hn
    exact ⟨hkey, hdecode, ih _ (List.get_mem _ _) _ hdecode⟩
  case noItems => exact nofun
  case item =>
    intro v rest ihHead ihRest w hw
    rcases List.mem_cons.mp hw with rfl | hw
    · exact ihHead
    · exact ihRest w hw
  case noMembers => exact nofun
  case member =>
    intro key v rest ihHead ihRest entry he
    rcases List.mem_cons.mp he with rfl | he
    · exact ihHead
    · exact ihRest entry he

/-! ## Keys -/

/-- Whether an object stands for a pattern is for its keys to say. -/
theorem isPatternLiteral_eq_of_keys {members others : Members} (h : members.keys = others.keys) :
    isPatternLiteral members = isPatternLiteral others := by
  rw [isPatternLiteral, isPatternLiteral, Mapping.contains_eq_keys_contains, Mapping.contains_eq_keys_contains, h]

/-- Decoding and writing keep the keys of a mapping. -/
theorem keys_fieldsToJson {members : Members} {fields : List (String × Node)}
    (h : List.Forall₂ (fun entry field => entry.1 = field.1) members fields) :
    Mapping.keys (fieldsToJson fields) = members.keys := by
  rw [fieldsToJson_eq_map]
  refine Mapping.keys_eq_of_forall₂ ?_
  rw [List.forall₂_map_right_iff]
  exact h

/-! ## Decoding what was written -/

/-- A pattern is written as an object that stands for it. -/
theorem decode_toJson_pattern (p : Pattern) : decode (Node.pattern p).toJson = .ok (.pattern p) := by
  have hliteral : isPatternLiteral [(patternKey, .str p.source)] = true := by
    simp [isPatternLiteral, Mapping.contains, Mapping.keys]
  have hpattern : decodePattern [(patternKey, .str p.source)] = .ok p := by
    show compilePattern p.source p.source = .ok p
    rw [compilePattern, p.compile_source]
    rfl
  rw [toJson, decode, if_pos hliteral, hpattern]
  rfl

/-- What a document decodes to is written as a document that decodes to it again. -/
theorem decode_toJson {v : Json} {n : Node} (h : decode v = .ok n) : decode n.toJson = .ok n := by
  refine decode_induct (P := fun _ n => decode n.toJson = .ok n) rfl (fun _ => rfl) (fun _ => rfl) (fun _ => rfl) ?seq ?pattern ?map v n h
  case seq =>
    intro items ns hall
    have hns : decodeItems (itemsToJson ns) = .ok ns := by
      rw [itemsToJson_eq_map, decodeItems_eq_ok_iff, List.forall₂_map_left_iff, List.forall₂_same]
      exact forall_of_forall₂ hall fun _ _ _ h => h.2
    rw [toJson, decode, hns]
    rfl
  case pattern => exact fun _ p _ _ => decode_toJson_pattern p
  case map =>
    intro members fields hliteral hall
    have hfields : decodeMembers (fieldsToJson fields) = .ok fields := by
      rw [fieldsToJson_eq_map, decodeMembers_eq_ok_iff, List.forall₂_map_left_iff, List.forall₂_same]
      exact forall_of_forall₂ hall fun _ _ _ h => ⟨rfl, h.2.2⟩
    rw [← isPatternLiteral_eq_of_keys (keys_fieldsToJson (hall.imp fun _ _ h => h.1))] at hliteral
    rw [toJson, decode, if_neg (by simp [hliteral]), hfields]
    rfl

/-! ## Reading what was written -/

/-- The text of a description that a document decodes to is read as the description, if the text of its document is read as the
document. -/
theorem read_text {v : Json} {n : Node} (decoded : decode v = .ok n) (readBack : Json.read? n.toJson.text = some n.toJson) :
    read n.text = .ok n := by
  rw [read, text, Json.front?_of_read? readBack]
  simp only [decode_toJson decoded, if_true]

/-! ## Sameness -/

/-- Every description, and every run of fields or items, is the same as itself. -/
theorem same_self_all :
    (∀ n : Node, n.same n = true) ∧ (∀ fields, sameFields fields fields = true) ∧ ∀ items, sameItems items items = true := by
  refine toJson.mutual_induct _ _ _ ?null ?boolean ?number ?text ?pattern ?list ?mapping ?noItems ?item ?noFields ?field
  case null => rfl
  case boolean =>
    intro b
    simp [same]
  case number =>
    intro x
    simp [same, Number.same_refl]
  case text =>
    intro s
    simp [same]
  case pattern =>
    intro p
    simp [same]
  case list =>
    intro items ih
    rwa [same]
  case mapping =>
    intro fields ih
    rwa [same]
  case noItems => rfl
  case item =>
    intro n rest ihHead ihRest
    rw [sameItems, ihHead, ihRest]
    rfl
  case noFields => rfl
  case field =>
    intro key n rest ihHead ihRest
    simp [sameFields, ihHead, ihRest]

/-- A description is the same as itself. -/
theorem same_self (n : Node) : n.same n = true :=
  same_self_all.1 n

end Node

end Schemata
