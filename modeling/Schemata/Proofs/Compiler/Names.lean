import Mathlib.Logic.Relation
import Schemata.Proofs.Compiler.BareMapping

/-!
# Names that name nothing

When a description does not compile because of a name, the name stands in the description (`Compiler.unresolved_inside`). It is a
text for which no builder is registered, neither as it stands nor for what follows the first marker in it, and which does not call a
root builder either; or it is something else than a text in the place of a name, and is shown as a document. An empty sequence in
the place of a call has the name `[]`.
-/

namespace Schemata

namespace Node

/-- A node is one of the items of a sequence or of the fields of a mapping. -/
inductive Part : Node → Node → Prop where
  | item {n : Node} {items : List Node} (h : n ∈ items) : Part n (.seq items)
  | field {key : String} {n : Node} {fields : List (String × Node)} (h : (key, n) ∈ fields) : Part n (.map fields)

/-- A node is part of another, or part of a part of it, and so on. -/
def Inside (n whole : Node) : Prop :=
  Relation.TransGen Part n whole

/-- What is inside some items is inside more of them. -/
theorem Inside.cons {n : Node} {items : List Node} (h : n.Inside (.seq items)) (first : Node) : n.Inside (.seq (first :: items)) := by
  cases h with
  | single h =>
    cases h with
    | item h => exact .single (.item (List.mem_cons_of_mem first h))
  | tail hinside h =>
    cases h with
    | item h => exact .tail hinside (.item (List.mem_cons_of_mem first h))

end Node

namespace Compiler

open Node (Part)

variable (c : Compiler)

/-! ## What is wrong with a name -/

/-- No builder is registered for a text, and if the marker is in the text, none is for what follows the first marker, which no root
builder has as its name either. -/
def Unknown (s : String) : Prop :=
  c.registry.get? s = none ∧
    ((¬∃ before after, s = before ++ c.marker ++ after) ∨
      ∃ bare, Text.afterFirst? c.marker s = some bare ∧ c.registry.get? bare = none ∧ ∀ r : Root, r.name ≠ bare)

/-- The name that is reported for a node that is no sequence: a text that is unknown is its own, and anything else has its text as a
document. -/
inductive Blames : String → Node → Prop where
  | text {s : String} (unknown : c.Unknown s) : Blames s (.str s)
  | other {n : Node} (notText : ∀ s, n ≠ .str s) (notSeq : ∀ items, n ≠ .seq items) : Blames n.text n

/-- The name that is reported is that of something inside a description. -/
def Blamed (s : String) (whole : Node) : Prop :=
  (s = "[]" ∧ (Node.seq []).Inside whole) ∨ ∃ n, n.Inside whole ∧ c.Blames s n

variable {c} {s : String}

/-- What is inside a part is inside the whole. -/
theorem Blamed.of_part {n whole : Node} (h : c.Blamed s n) (part : n.Part whole) : c.Blamed s whole := by
  rcases h with ⟨hs, hinside⟩ | ⟨m, hinside, hm⟩
  · exact Or.inl ⟨hs, hinside.tail part⟩
  · exact Or.inr ⟨m, hinside.tail part, hm⟩

/-- What is inside some items is inside more of them. -/
theorem Blamed.cons {items : List Node} (h : c.Blamed s (.seq items)) (first : Node) : c.Blamed s (.seq (first :: items)) := by
  rcases h with ⟨hs, hinside⟩ | ⟨m, hinside, hm⟩
  · exact Or.inl ⟨hs, hinside.cons first⟩
  · exact Or.inr ⟨m, hinside.cons first, hm⟩

/-- A call that is part of a description and is empty, or has something inside, has the description blamed. -/
theorem blamed_of_call {items : List Node} {whole : Node} (h : items = [] ∧ s = "[]" ∨ c.Blamed s (.seq items))
    (part : (Node.seq items).Part whole) : c.Blamed s whole := by
  rcases h with ⟨rfl, hs⟩ | h
  · exact Or.inl ⟨hs, .single part⟩
  · exact h.of_part part

/-! ## Where names are looked up -/

/-- A text for which no builder is found is unknown. -/
theorem unknown_of_lookup? {receiver : Option Term} (h : c.lookup? s receiver = none) : c.Unknown s := by
  unfold lookup? at h
  split at h
  · cases h
  · rename_i hself
    refine ⟨hself, ?_⟩
    split at h
    · rename_i hcut
      left
      rw [← Text.occursIn_iff, Text.occursIn, hcut]
      exact Bool.false_ne_true
    · rename_i before bare hcut
      have hbare : Text.afterFirst? c.marker s = some bare := by rw [← Text.map_snd_cutAt?, hcut, Option.map_some]
      split at h
      · cases h
      · rename_i hregistered
        refine Or.inr ⟨bare, hbare, hregistered, ?_⟩
        rintro r rfl
        rw [memberOf?_root, Root.named?_name] at h
        cases h

/-- Something in the place of a name that names nothing is reported with its name. -/
theorem blames_of_resolve {name : Node} {receiver : Option Term} (notSeq : ∀ items, name ≠ .seq items)
    (h : c.resolve name receiver = .error (.unresolved s)) : c.Blames s name := by
  by_cases htext : ∃ text, name = .str text
  · obtain ⟨text, rfl⟩ := htext
    rw [resolve_str] at h
    cases hfound : c.lookup? text receiver with
    | none =>
      rw [hfound] at h
      cases h
      exact .text (unknown_of_lookup? hfound)
    | some binding =>
      rw [hfound] at h
      cases h
  · have notText : ∀ text, name ≠ .str text := fun text hn => htext ⟨text, hn⟩
    have hname : s = name.text := by
      cases name with
      | seq items => exact (notSeq items rfl).elim
      | str text => exact (notText text rfl).elim
      | _ =>
        cases h
        rfl
    rw [hname]
    exact .other notText notSeq

/-- Going on with a shape does not fail for a name. -/
theorem continueWithShape_ne_unresolved (acc : Term) : (c.continueWithShape acc).result ≠ .error (.unresolved s) := by
  intro h
  unfold continueWithShape at h
  split at h
  · obtain ⟨e, -, h⟩ := mapError_eq_error_iff.mp h
    cases h
  · split at h
    · cases h
    · obtain ⟨e, -, h⟩ := mapError_eq_error_iff.mp (map_eq_error_iff.mp h)
      cases h
  · cases h
  · cases h

/-- Neither does what stands in the place of a pattern. -/
theorem leadingPattern?_ne_unresolved {raw : List Node} {lead : Except CompileError Pattern} (hlead : leadingPattern? raw = some lead) :
    lead ≠ .error (.unresolved s) := by
  rintro rfl
  unfold leadingPattern? at hlead
  split at hlead
  · obtain ⟨e, -, h⟩ := mapError_eq_error_iff.mp (Option.some.inj hlead)
    cases h
  · cases hlead
  · cases hlead
  · cases hlead

/-! ## Names inside descriptions -/

/-- A call fails for its name, or for one in its arguments. -/
theorem blamed_of_named {name : Node} (notSeq : ∀ items, name ≠ .seq items) {raw : List Node} {receiver : Option Term}
    (arguments : ∀ binding, c.argumentsOf binding raw = .error (.unresolved s) → c.Blamed s (.seq raw))
    (h : (c.invoke (name :: raw) receiver).result = .error (.unresolved s)) : c.Blamed s (.seq (name :: raw)) := by
  rw [c.result_invoke_name notSeq] at h
  rcases bind_eq_error_iff.mp h with h | ⟨binding, -, h⟩
  · exact Or.inr ⟨name, .single (.item List.mem_cons_self), blames_of_resolve notSeq h⟩
  · rcases bind_eq_error_iff.mp h with h | ⟨args, -, h⟩
    · exact (arguments binding h).cons name
    · obtain ⟨e, -, h⟩ := mapError_eq_error_iff.mp h
      cases h

mutual

/-- A description that does not compile because of a name has what is named inside. -/
theorem blamed_of_compile {n : Node} (h : (c.compile n).result = .error (.unresolved s)) : c.Blamed s n := by
  match n with
  | .seq items =>
    by_cases hinv : Node.isInvocation c.marker items = true
    · rw [c.compile_invocation hinv] at h
      refine (blamed_of_invoke h).resolve_left ?_
      rintro ⟨rfl, -⟩
      cases hinv
    · rw [compile, if_neg hinv, Traced.result_bind, result_compileItems] at h
      rcases bind_eq_error_iff.mp h with h | ⟨terms, -, h⟩
      · obtain ⟨n, hn, h⟩ := exists_of_mapM_eq_error h
        exact (blamed_of_compile h).of_part (.item hn)
      · cases h
  | .map fields =>
    rw [result_compile_map, map_eq_error_iff, result_compileFields] at h
    obtain ⟨⟨key, n⟩, hn, h⟩ := exists_of_mapM_eq_error h
    exact (blamed_of_compile (map_eq_error_iff.mp h)).of_part (.field hn)
  | .null | .bool _ | .num _ | .str _ | .pattern _ => cases h
termination_by (sizeOf n, 0)
decreasing_by
  · apply Prod.Lex.left
    simp only [Node.seq.sizeOf_spec]
    omega
  · have := List.sizeOf_lt_of_mem hn
    apply Prod.Lex.left
    simp only [Node.seq.sizeOf_spec]
    omega
  · have := List.sizeOf_lt_of_mem hn
    apply Prod.Lex.left
    simp only [Node.map.sizeOf_spec, Prod.mk.sizeOf_spec] at this ⊢
    omega

/-- A call or a chain of calls that fails for a name is empty, or has what is named inside. -/
theorem blamed_of_invoke {items : List Node} {receiver : Option Term}
    (h : (c.invoke items receiver).result = .error (.unresolved s)) : items = [] ∧ s = "[]" ∨ c.Blamed s (.seq items) := by
  match items with
  | [] =>
    cases h
    exact Or.inl ⟨rfl, rfl⟩
  | .seq first :: rest =>
    right
    rw [result_invoke_seq] at h
    rcases bind_eq_error_iff.mp h with h | ⟨acc, -, h⟩
    · exact blamed_of_call (blamed_of_invoke h) (.item List.mem_cons_self)
    · obtain ⟨n, hn, acc, h⟩ := exists_of_foldlM_eq_error h
      have part : n.Part (.seq (.seq first :: rest)) := .item (List.mem_cons_of_mem _ hn)
      -- An element is a call, or goes on with a shape, or is put in a list.
      match n with
      | .seq items => exact blamed_of_call (blamed_of_invoke h) part
      | .str text =>
        by_cases hs : text = c.shapeMarker
        · exact (continueWithShape_ne_unresolved acc ((if_pos hs).symm.trans h)).elim
        · cases (if_neg hs).symm.trans h
      | .null | .bool _ | .num _ | .pattern _ | .map _ =>
        exact (blamed_of_compile (map_eq_error_iff.mp h)).of_part part
  | .null :: raw | .bool _ :: raw | .num _ :: raw | .str _ :: raw | .pattern _ :: raw | .map _ :: raw =>
    exact Or.inr (blamed_of_named (by simp) (fun _ h => blamed_of_argumentsOf h) h)
termination_by (sizeOf items, 0)
decreasing_by
  all_goals apply Prod.Lex.left
  -- The calls of a chain, what else is in it, and the arguments of a call.
  · simp only [List.cons.sizeOf_spec, Node.seq.sizeOf_spec]
    omega
  · have := List.sizeOf_lt_of_mem hn
    simp only [List.cons.sizeOf_spec, Node.seq.sizeOf_spec] at this ⊢
    omega
  iterate 5
    have := List.sizeOf_lt_of_mem hn
    simp only [List.cons.sizeOf_spec]
    omega
  all_goals
    simp only [List.cons.sizeOf_spec]
    omega

/-- Arguments that fail for a name have what is named inside. -/
theorem blamed_of_argumentsOf {binding : Binding} {raw : List Node} (h : c.argumentsOf binding raw = .error (.unresolved s)) :
    c.Blamed s (.seq raw) := by
  unfold argumentsOf at h
  split at h
  · rename_i lead hlead
    have hl : leadingPattern? raw = some lead := by
      split at hlead
      · exact hlead
      · cases hlead
    rcases bind_eq_error_iff.mp h with h | ⟨p, -, h⟩
    · exact (leadingPattern?_ne_unresolved hl h).elim
    · obtain ⟨n, hn, h⟩ := exists_of_mapM_eq_error (map_eq_error_iff.mp h)
      have hmem : n ∈ raw := List.mem_of_mem_tail hn
      exact (blamed_of_compile h).of_part (.item hmem)
  · have h := map_eq_error_iff.mp h
    by_cases hinv : Node.isInvocation c.marker raw = true
    · rw [if_pos hinv] at h
      refine (blamed_of_invoke h).resolve_left ?_
      rintro ⟨rfl, -⟩
      cases hinv
    · rw [if_neg hinv] at h
      obtain ⟨n, hmem, h⟩ := exists_of_mapM_eq_error (map_eq_error_iff.mp h)
      exact (blamed_of_compile h).of_part (.item hmem)
termination_by (sizeOf raw, 1)
decreasing_by
  · have := List.sizeOf_lt_of_mem hmem
    exact Prod.Lex.left _ _ this
  · exact Prod.Lex.right _ Nat.one_pos
  · have := List.sizeOf_lt_of_mem hmem
    exact Prod.Lex.left _ _ this

end

/-- A description that does not compile because of a name has what is named inside. It is an empty sequence, which has the name `[]`,
or something else that is no sequence. If it is the text that is reported, then no builder is registered for the text, and the marker
is not in it, or what follows the first marker in it is neither registered nor the name of a root builder. -/
theorem unresolved_inside (c : Compiler) {n : Node} {s : String} (h : (c.compile n).result = .error (.unresolved s)) :
    (s = "[]" ∧ (Node.seq []).Inside n) ∨
      ∃ named : Node, named.Inside n ∧ (∀ items, named ≠ .seq items) ∧
        (named = .str s ∨ (∀ text, named ≠ .str text) ∧ s = named.text) ∧
        (named = .str s → c.registry.get? s = none ∧
          ((¬∃ before after, s = before ++ c.marker ++ after) ∨
            ∃ bare, Text.afterFirst? c.marker s = some bare ∧ c.registry.get? bare = none ∧ ∀ r : Root, r.name ≠ bare)) := by
  rcases blamed_of_compile h with hempty | ⟨named, hinside, hblames⟩
  · exact Or.inl hempty
  · refine Or.inr ⟨named, hinside, ?_⟩
    cases hblames with
    | text unknown => exact ⟨nofun, Or.inl rfl, fun _ => unknown⟩
    | other notText notSeq => exact ⟨notSeq, Or.inr ⟨notText, rfl⟩, fun htext => (notText _ htext).elim⟩

namespace NamesWitness

open SmallCase (compiler)

/-- A chain that labels arrays of something unknown. -/
def unknownItems : Node :=
  .seq [.seq [.str "do.array", .str "do.nothing"], .seq [.str "do.label", .str "things"]]

/-- Fields with a truth value in the place of a name. -/
def truthCalled : Node :=
  .map [("age", .seq [.seq [.str "do.number"], .seq [.bool true, .str "do.min"]])]

theorem unresolved_inside_chain_and_field :
    ((compiler.compile unknownItems).result = .error (.unresolved "do.nothing") ∧
      ∃ named : Node, named.Inside unknownItems ∧ (∀ items, named ≠ .seq items) ∧
        (named = .str "do.nothing" ∨ (∀ text, named ≠ .str text) ∧ "do.nothing" = named.text)) ∧
    ((compiler.compile truthCalled).result = .error (.unresolved "true") ∧
      ∃ named : Node, named.Inside truthCalled ∧ (∀ items, named ≠ .seq items) ∧
        (named = .str "true" ∨ (∀ text, named ≠ .str text) ∧ "true" = named.text)) := by
  have hitems : (compiler.compile unknownItems).result = .error (.unresolved "do.nothing") := rfl
  have htruth : (compiler.compile truthCalled).result = .error (.unresolved "true") := rfl
  refine ⟨⟨hitems, ?_⟩, htruth, ?_⟩
  · obtain ⟨named, hinside, notSeq, hname, -⟩ := (compiler.unresolved_inside hitems).resolve_left (by simp)
    exact ⟨named, hinside, notSeq, hname⟩
  · obtain ⟨named, hinside, notSeq, hname, -⟩ := (compiler.unresolved_inside htruth).resolve_left (by simp)
    exact ⟨named, hinside, notSeq, hname⟩

end NamesWitness

end Compiler

end Schemata
