import Schemata.Proofs.Node.RoundTrip

/-!
# What descriptions are written as

A description is written as the document it was read from, but that the flags of a pattern stand in the text of the pattern
(`Json.folded`). So a document without flags is written as it was, and two descriptions are the same exactly when they are written
as the same document (`Node.same_eq_toJson_same`).
-/

namespace Schemata

namespace Json

/-- A document occurs in another: it is the other, or occurs in an item or in the value of a member. -/
inductive Occurs (w : Json) : Json → Prop where
  | here : Occurs w w
  | item {items : List Json} {v : Json} (hv : v ∈ items) (h : Occurs w v) : Occurs w (.arr items)
  | member {members : Members} {entry : String × Json} (he : entry ∈ members) (h : Occurs w entry.2) : Occurs w (.obj members)

/-- Something holds of the members of every object in a document. -/
def AllObjects (P : Members → Prop) (v : Json) : Prop :=
  ∀ members, Occurs (.obj members) v → P members

variable {P : Members → Prop}

@[simp] theorem allObjects_str (s : String) : AllObjects P (.str s) :=
  fun _ hm => nomatch hm

@[simp] theorem allObjects_arr_iff (items : List Json) : AllObjects P (.arr items) ↔ ∀ v ∈ items, v.AllObjects P := by
  constructor
  · exact fun h _ hv members hm => h members (.item hv hm)
  · intro h members hm
    cases hm with
    | item hv hm => exact h _ hv members hm

@[simp] theorem allObjects_obj_iff (members : Members) :
    AllObjects P (.obj members) ↔ P members ∧ ∀ entry ∈ members, entry.2.AllObjects P := by
  constructor
  · exact fun h => ⟨h members .here, fun _ he inner hm => h inner (.member he hm)⟩
  · rintro ⟨here, h⟩ inner hm
    cases hm with
    | here => exact here
    | member he hm => exact h _ he inner hm

/-- The pattern that an object writes: its text, and in front of it its flags in brackets, if it has any. -/
def writtenPattern (members : Members) : String :=
  match Mapping.get? members "$regex", Mapping.get? members "$flags" with
  | some (.str source), some (.str flags) => if flags = "" then source else "(?" ++ flags ++ ")" ++ source
  | some (.str source), _ => source
  | _, _ => ""

mutual

/-- A document in which every object that stands for a pattern is replaced by one with nothing but the pattern it writes. -/
def folded (v : Json) : Json :=
  match v with
  | .arr items => .arr (foldedItems items)
  | .obj members =>
    if Node.isPatternLiteral members then .obj [("$regex", .str (writtenPattern members))] else .obj (foldedMembers members)
  | v => v
termination_by structural v

/-- Items with their patterns replaced. -/
def foldedItems (items : List Json) : List Json :=
  match items with
  | [] => []
  | v :: rest => folded v :: foldedItems rest
termination_by structural items

/-- Members with their patterns replaced. -/
def foldedMembers (members : List (String × Json)) : List (String × Json) :=
  match members with
  | [] => []
  | (key, v) :: rest => (key, folded v) :: foldedMembers rest
termination_by structural members

end

theorem foldedItems_eq_map (items : List Json) : foldedItems items = items.map folded := by
  induction items with
  | nil => rfl
  | cons v rest ih => rw [foldedItems, ih, List.map_cons]

theorem foldedMembers_eq_map (members : Members) :
    foldedMembers members = members.map fun entry => (entry.1, entry.2.folded) := by
  induction members with
  | nil => rfl
  | cons entry rest ih => rw [foldedMembers, ih, List.map_cons]

end Json

namespace Node

/-! ## Patterns -/

/-- The text under a key is there, or there is nothing under the key and the text is the one for that. -/
theorem textUnder_eq_ok_iff {members : Members} {key : String} {absent : Except DecodeError String} {s : String} :
    textUnder members key absent = .ok s ↔
      members.get? key = some (.str s) ∨ members.get? key = none ∧ absent = .ok s := by
  unfold textUnder
  split <;> simp_all

/-- The pattern that an object writes is its text with its flags in front of it. -/
theorem writtenPattern_eq_foldFlags {members : Members} {source flags : String}
    (hsource : textUnder members patternKey (.error (.notText patternKey)) = .ok source)
    (hflags : textUnder members flagsKey (.ok "") = .ok flags) : Json.writtenPattern members = foldFlags flags source := by
  rcases textUnder_eq_ok_iff.mp hsource with hs | ⟨-, hs⟩
  · rcases textUnder_eq_ok_iff.mp hflags with hf | ⟨hf, he⟩
    · rw [Json.writtenPattern, show members.get? "$regex" = _ from hs, show members.get? "$flags" = _ from hf]
      rfl
    · cases he
      rw [Json.writtenPattern, show members.get? "$regex" = _ from hs, show members.get? "$flags" = _ from hf]
      rfl
  · cases hs

/-- The pattern that an object decodes to has the text that the object writes. -/
theorem source_of_decodePattern {members : Members} {p : Pattern} (h : decodePattern members = .ok p) :
    p.source = Json.writtenPattern members := by
  obtain ⟨source, hsource, h⟩ := bind_eq_ok_iff.mp h
  obtain ⟨flags, hflags, h⟩ := bind_eq_ok_iff.mp h
  rw [writtenPattern_eq_foldFlags hsource hflags]
  split at h
  · cases h
  · exact Pattern.source_of_compile (mapError_eq_ok_iff.mp h)

/-- An object that stands for a pattern without flags has the pattern as its only member. -/
theorem eq_singleton_of_decodePattern {members : Members} {p : Pattern} (ordered : members.Ordered)
    (literal : isPatternLiteral members = true) (unflagged : members.get? "$flags" = none)
    (h : decodePattern members = .ok p) : members = [("$regex", .str p.source)] := by
  obtain ⟨source, hsource, -⟩ := bind_eq_ok_iff.mp h
  have hget : members.get? "$regex" = some (.str source) := by
    rcases textUnder_eq_ok_iff.mp hsource with hs | ⟨-, hs⟩
    · exact hs
    · cases hs
  have hwritten : p.source = source := by
    rw [source_of_decodePattern h, Json.writtenPattern, hget, unflagged]
  -- No key is that of the flags, so every key is that of the pattern, and keys in order are different.
  have hkeys : ∀ entry ∈ members, entry.1 = "$regex" := by
    intro entry hm
    rw [isPatternLiteral, Bool.and_eq_true, List.all_eq_true] at literal
    have hkey := literal.2 entry.1 (List.mem_map_of_mem hm)
    rw [Bool.or_eq_true, beq_iff_eq, beq_iff_eq] at hkey
    refine hkey.resolve_right fun hf => ?_
    have hnone : members.contains flagsKey = false := by
      rw [Mapping.contains, show members.get? flagsKey = none from unflagged]
      rfl
    rw [Mapping.contains_eq_keys_contains, ← Bool.not_eq_true, List.contains_iff_mem] at hnone
    exact hnone (hf ▸ List.mem_map_of_mem hm)
  cases members with
  | nil => cases hget
  | cons first rest =>
    obtain ⟨key, v⟩ := first
    cases rest with
    | nil =>
      have hkey : key = "$regex" := hkeys _ List.mem_cons_self
      subst hkey
      rw [hwritten]
      cases hget
      rfl
    | cons second more =>
      have hlt : key < second.1 := List.rel_of_pairwise_cons ordered List.mem_cons_self
      have hfirst : key = "$regex" := hkeys _ List.mem_cons_self
      rw [hfirst, hkeys second (List.mem_cons_of_mem _ List.mem_cons_self)] at hlt
      exact (String.lt_irrefl _ hlt).elim

/-! ## Documents -/

/-- What a document decodes to is written as the document with its patterns replaced. -/
theorem toJson_eq_folded {v : Json} {n : Node} (h : decode v = .ok n) : n.toJson = v.folded := by
  refine decode_induct (P := fun v n => n.toJson = v.folded) rfl (fun _ => rfl) (fun _ => rfl) (fun _ => rfl) ?seq ?pattern ?map v n h
  case seq =>
    intro items ns hall
    rw [toJson, Json.folded, itemsToJson_eq_map, Json.foldedItems_eq_map]
    congr 1
    induction hall with
    | nil => rfl
    | cons head _ ih => rw [List.map_cons, List.map_cons, head.2, ih]
  case pattern =>
    intro members p hliteral hp
    rw [toJson, Json.folded, if_pos hliteral, source_of_decodePattern hp]
    rfl
  case map =>
    intro members fields hliteral hall
    rw [toJson, Json.folded, if_neg (by simp [hliteral]), fieldsToJson_eq_map, Json.foldedMembers_eq_map]
    congr 1
    clear hliteral
    induction hall with
    | nil => rfl
    | cons head _ ih => rw [List.map_cons, List.map_cons, head.1, head.2.2, ih]

/-- No object in a document that stands for a pattern has flags. -/
def Unflagged (v : Json) : Prop :=
  v.AllObjects fun members => isPatternLiteral members = true → Mapping.get? members "$flags" = none

/-- A document without flags is what its description is written as. -/
theorem toJson_eq_self {v : Json} {n : Node} (h : decode v = .ok n) (ordered : v.AllObjects Mapping.Ordered)
    (unflagged : Unflagged v) : n.toJson = v := by
  refine decode_induct (P := fun v n => v.AllObjects Mapping.Ordered → Unflagged v → n.toJson = v) (fun _ _ => rfl)
    (fun _ _ _ => rfl) (fun _ _ _ => rfl) (fun _ _ _ => rfl) ?seq ?pattern ?map v n h ordered unflagged
  case seq =>
    intro items ns hall ordered unflagged
    rw [Json.allObjects_arr_iff] at ordered
    rw [Unflagged, Json.allObjects_arr_iff] at unflagged
    rw [toJson, itemsToJson_eq_map]
    congr 1
    induction hall with
    | nil => rfl
    | cons head _ ih =>
      rw [List.forall_mem_cons] at ordered unflagged
      rw [List.map_cons, head.2 ordered.1 unflagged.1, ih ordered.2 unflagged.2]
  case pattern =>
    intro members p hliteral hp ordered unflagged
    have hsingle := eq_singleton_of_decodePattern (ordered members .here) hliteral (unflagged members .here hliteral) hp
    exact (congrArg Json.obj hsingle).symm
  case map =>
    intro members fields hliteral hall ordered unflagged
    replace ordered := ((Json.allObjects_obj_iff members).mp ordered).2
    replace unflagged := ((Json.allObjects_obj_iff members).mp unflagged).2
    rw [toJson, fieldsToJson_eq_map]
    congr 1
    clear hliteral
    induction hall with
    | nil => rfl
    | cons head _ ih =>
      rw [List.forall_mem_cons] at ordered unflagged
      rw [List.map_cons, ← head.1, head.2.2 ordered.1 unflagged.1, ih ordered.2 unflagged.2]

/-! ## Sameness -/

/-- Some document decodes to it. -/
def IsDecoded (n : Node) : Prop :=
  ∃ v, decode v = .ok n

/-- The items of a sequence that was decoded were decoded. -/
theorem IsDecoded.items {items : List Node} (h : IsDecoded (.seq items)) : ∀ n ∈ items, n.IsDecoded := by
  obtain ⟨v, h⟩ := h
  cases v with
  | arr vs =>
    obtain ⟨ns, hns, h⟩ := bind_eq_ok_iff.mp h
    cases h
    exact forall_of_forall₂ (decodeItems_eq_ok_iff.mp hns) fun v _ n h => ⟨v, h⟩
  | obj members =>
    rw [decode] at h
    split at h <;> obtain ⟨_, -, h⟩ := bind_eq_ok_iff.mp h <;> cases h
  | _ => cases h

/-- So were the fields of a mapping, which is written as no object that stands for a pattern. -/
theorem IsDecoded.fields {fields : List (String × Node)} (h : IsDecoded (.map fields)) :
    (∀ field ∈ fields, field.2.IsDecoded) ∧ isPatternLiteral (fieldsToJson fields) = false := by
  obtain ⟨v, h⟩ := h
  cases v with
  | arr vs =>
    obtain ⟨_, -, h⟩ := bind_eq_ok_iff.mp h
    cases h
  | obj members =>
    rw [decode] at h
    split at h
    · obtain ⟨_, -, h⟩ := bind_eq_ok_iff.mp h
      cases h
    · rename_i hliteral
      obtain ⟨fields', hfields, h⟩ := bind_eq_ok_iff.mp h
      cases h
      have hall := decodeMembers_eq_ok_iff.mp hfields
      refine ⟨forall_of_forall₂ hall fun entry _ field h => ⟨entry.2, h.2⟩, ?_⟩
      rw [isPatternLiteral_eq_of_keys (keys_fieldsToJson (hall.imp fun _ _ h => h.1))]
      exact Bool.eq_false_iff.mpr hliteral
  | _ => cases h

/-- An object that is the same as one of a pattern alone stands for a pattern. -/
theorem isPatternLiteral_of_sameMembers {members : Members} {v : Json}
    (h : Json.sameMembers [("$regex", v)] members = true ∨ Json.sameMembers members [("$regex", v)] = true) :
    isPatternLiteral members = true := by
  have hkeys : members.keys = ["$regex"] := by
    rcases members with _ | ⟨⟨key, w⟩, _ | ⟨second, more⟩⟩ <;> simp_all [Json.sameMembers, Mapping.keys]
    exact h.elim (fun h => h.1.symm) (fun h => h.1)
  rw [isPatternLiteral, Mapping.contains_eq_keys_contains, hkeys]
  rfl

/-- Descriptions that were decoded, and runs of their items or fields, are the same exactly when what they are written as is. -/
theorem same_eq_toJson_same_all :
    (∀ n m : Node, n.IsDecoded → m.IsDecoded → n.same m = n.toJson.same m.toJson) ∧
      (∀ fields others : List (String × Node), (∀ field ∈ fields, field.2.IsDecoded) → (∀ field ∈ others, field.2.IsDecoded) →
        sameFields fields others = Json.sameMembers (fieldsToJson fields) (fieldsToJson others)) ∧
      ∀ items others : List Node, (∀ n ∈ items, n.IsDecoded) → (∀ n ∈ others, n.IsDecoded) →
        sameItems items others = Json.sameItems (itemsToJson items) (itemsToJson others) := by
  have hmixed : ∀ (p : Pattern) (fields : List (String × Node)), IsDecoded (.map fields) →
      (Node.pattern p).toJson.same (Node.map fields).toJson = false ∧
        (Node.map fields).toJson.same (Node.pattern p).toJson = false := by
    intro p fields h
    have hliteral := h.fields.2
    constructor <;> rw [← Bool.not_eq_true] <;> intro hsame
    · rw [isPatternLiteral_of_sameMembers (Or.inl hsame)] at hliteral
      cases hliteral
    · rw [isPatternLiteral_of_sameMembers (Or.inr hsame)] at hliteral
      cases hliteral
  refine toJson.mutual_induct _ _ _ ?null ?boolean ?number ?text ?pattern ?list ?mapping ?noItems ?item ?noFields ?field
  case null =>
    intro m _ _
    cases m <;> rfl
  case boolean =>
    intro b m _ _
    cases m <;> rfl
  case number =>
    intro x m _ _
    cases m <;> rfl
  case text =>
    intro s m _ _
    cases m <;> rfl
  case pattern =>
    intro p m _ hm
    cases m with
    | pattern q => simp [same, toJson, Json.same, Json.sameMembers]
    | map fields => exact (hmixed p fields hm).1.symm
    | _ => rfl
  case list =>
    intro items ih m hn hm
    cases m with
    | seq others => exact ih others hn.items hm.items
    | _ => rfl
  case mapping =>
    intro fields ih m hn hm
    cases m with
    | map others => exact ih others hn.fields.1 hm.fields.1
    | pattern q => exact (hmixed q fields hn).2.symm
    | _ => rfl
  case noItems =>
    intro others _ _
    cases others <;> rfl
  case item =>
    intro n rest ihHead ihRest others hn hm
    cases others with
    | nil => rfl
    | cons m more =>
      rw [List.forall_mem_cons] at hn hm
      rw [sameItems, itemsToJson, itemsToJson, Json.sameItems, ihHead m hn.1 hm.1, ihRest more hn.2 hm.2]
  case noFields =>
    intro others _ _
    rcases others with _ | ⟨⟨_, _⟩, _⟩ <;> rfl
  case field =>
    intro key n rest ihHead ihRest others hn hm
    rcases others with _ | ⟨⟨other, m⟩, more⟩
    · rfl
    · rw [List.forall_mem_cons] at hn hm
      rw [sameFields, fieldsToJson, fieldsToJson, Json.sameMembers, ihHead m hn.1 hm.1, ihRest more hn.2 hm.2]

/-- What a document decodes to is written as a document that decodes to the same description. That is the document itself with the
flags of each pattern put into its text, and so the document as it is when it has no flags. Two such descriptions are the same exactly
when they are written as the same document. -/
theorem encode_decoded {v : Json} {n : Node} (decoded : decode v = .ok n) :
    (∃ again, decode n.toJson = .ok again ∧ again.same n = true) ∧ n.toJson = v.folded ∧
      (v.AllObjects Mapping.Ordered → Unflagged v → n.toJson = v) ∧
      ∀ w m, decode w = .ok m → (n.same m = true ↔ n.toJson.same m.toJson = true) := by
  refine ⟨⟨n, decode_toJson decoded, n.same_self⟩, toJson_eq_folded decoded, toJson_eq_self decoded, fun w m h => ?_⟩
  rw [same_eq_toJson_same_all.1 n m ⟨v, decoded⟩ ⟨w, h⟩]

namespace EncodingWitness

/-- A call with a pattern whose flag is written apart, and a mapping that has flags but is no pattern. -/
def flagged : Json :=
  .obj [("call", .arr [.str "do.matches", .obj [("$flags", .str "s"), ("$regex", .str "a")]]), ("map", .obj [("$flags", .str "s")])]

/-- The same with the flag in the text of the pattern. -/
def unflagged : Json :=
  .obj [("call", .arr [.str "do.matches", .obj [("$regex", .str "(?s)a")]]), ("map", .obj [("$flags", .str "s")])]

/-- What both are read as. -/
def node (p : Pattern) : Node :=
  .map [("call", .seq [.str "do.matches", .pattern p]), ("map", .map [("$flags", .str "s")])]

theorem exists_pattern : ∃ p, Pattern.compile "(?s)a" = .ok p := by
  have hsome : (Pattern.compile "(?s)a").toOption.isSome = true := by decide +kernel
  cases h : Pattern.compile "(?s)a" with
  | ok p => exact ⟨p, rfl⟩
  | error e =>
    rw [h] at hsome
    cases hsome

theorem ordered_unflagged : unflagged.AllObjects Mapping.Ordered := by
  have hkeys : "call" < "map" := by decide
  have hpair : ∀ call map : Json, Mapping.Ordered [("call", call), ("map", map)] := fun _ _ => List.pairwise_pair.mpr hkeys
  have hsingle : ∀ entry : String × Json, Mapping.Ordered [entry] := List.pairwise_singleton _
  simp [unflagged, hpair, hsingle]

theorem unflagged_unflagged : Unflagged unflagged := by
  simp [Unflagged, unflagged, isPatternLiteral, Mapping.contains, Mapping.keys, patternKey]

/-- Around the pattern, the documents are read the same. -/
theorem decode_around {literal : Json} {p : Pattern} (h : decode literal = .ok (.pattern p)) :
    decode (.obj [("call", .arr [.str "do.matches", literal]), ("map", .obj [("$flags", .str "s")])]) = .ok (node p) := by
  have hcall : decode (.arr [.str "do.matches", literal]) = .ok (.seq [.str "do.matches", .pattern p]) := by
    rw [decode, decodeItems, decodeItems, decodeItems, h]
    rfl
  have hmapping : ¬isPatternLiteral [("call", .arr [.str "do.matches", literal]), ("map", .obj [("$flags", .str "s")])] = true := by
    simp [isPatternLiteral, Mapping.contains, patternKey]
  rw [decode, if_neg hmapping, decodeMembers, hcall]
  rfl

theorem encode_flagged_and_unflagged :
    ∃ n, (decode flagged = .ok n ∧ decode unflagged = .ok n) ∧
      (unflagged.AllObjects Mapping.Ordered ∧ Unflagged unflagged) ∧
      (∃ again, decode n.toJson = .ok again ∧ again.same n = true) ∧ n.toJson = flagged.folded ∧ n.toJson = unflagged ∧
      (n.same n = true ↔ n.toJson.same n.toJson = true) := by
  obtain ⟨p, hp⟩ := exists_pattern
  have hflagged : decode flagged = .ok (node p) := by
    have hpattern : decodePattern [("$flags", .str "s"), ("$regex", .str "a")] = .ok p := by
      show (Pattern.compile "(?s)a").mapError _ = _
      rw [hp]
      rfl
    refine decode_around ?_
    rw [decode, if_pos (by decide), hpattern]
    rfl
  have hunflagged : decode unflagged = .ok (node p) := by
    have hpattern : decodePattern [("$regex", .str "(?s)a")] = .ok p := by
      show (Pattern.compile "(?s)a").mapError _ = _
      rw [hp]
      rfl
    refine decode_around ?_
    rw [decode, if_pos (by decide), hpattern]
    rfl
  obtain ⟨hagain, hfolded, -, hsame⟩ := encode_decoded hflagged
  exact ⟨node p, ⟨hflagged, hunflagged⟩, ⟨ordered_unflagged, unflagged_unflagged⟩, hagain, hfolded,
    (encode_decoded hunflagged).2.2.1 ordered_unflagged unflagged_unflagged, hsame unflagged (node p) hunflagged⟩

end EncodingWitness

end Node

end Schemata
