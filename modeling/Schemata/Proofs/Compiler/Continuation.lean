import Schemata.Proofs.Compiler.Calls
import Schemata.Proofs.Library.Membership
import Schemata.Proofs.Library.WellFormed

/-!
# Calls after a chain

A chain that describes a schema goes on with a call of one of its members. Its arguments are compiled as one sequence, and so the
call is given them as they are written unless the first is a text with the marker in it: the sequence is then a call of its own, of a
root builder, and gives a schema or a reference in place of the arguments.
-/

namespace Schemata

/-! ## Root builders -/

/-- A root builder gives a schema or a reference. -/
theorem Root.schema_or_reference_of_build (r : Root) {args : Arguments} {t : Term} (h : r.build args = .ok t) :
    (∃ s, t = .schema s) ∨ ∃ ref, t = .reference ref := by
  have plain : ∀ tag : Tag, Root.plain tag args = .ok t → ∃ s, t = .schema s := by
    intro tag h
    obtain ⟨-, -, h⟩ := bind_eq_ok_iff.mp h
    exact ⟨_, (Except.ok.inj h).symm⟩
  cases r with
  | mixed | string | number | boolean => exact Or.inl (plain _ h)
  | object | array =>
    obtain ⟨-, -, h⟩ := bind_eq_ok_iff.mp h
    split at h
    · cases h
      exact Or.inl ⟨_, rfl⟩
    · obtain ⟨part, -, h⟩ := bind_eq_ok_iff.mp h
      cases h
      exact Or.inl ⟨_, rfl⟩
  | ref =>
    obtain ⟨-, -, h⟩ := bind_eq_ok_iff.mp h
    obtain ⟨path, -, h⟩ := bind_eq_ok_iff.mp h
    split at h
    · cases h
    · cases h
      exact Or.inr ⟨_, rfl⟩

namespace Compiler

variable (c : Compiler)

/-! ## Scalars -/

/-- Scalars in a row compile to themselves. -/
theorem mapM_compile_scalars {args : List Node} (scalar : ∀ a ∈ args, a.IsScalar) :
    (args.mapM fun n => (c.compile n).result) = .ok (args.map fun a => Term.literal a.toJson) := by
  rw [mapM_eq_ok_iff, List.forall₂_map_right_iff, List.forall₂_same]
  intro a ha
  rw [c.compile_scalar (scalar a ha)]
  rfl

/-- The first of some arguments is a text with the marker in it. -/
def MarkLeads (args : List Node) : Prop :=
  ∃ text more, args = .str text :: more ∧ Text.occursIn c.marker text = true

/-- Scalars are an invocation when such a text leads them. -/
theorem isInvocation_scalars_iff {args : List Node} (scalar : ∀ a ∈ args, a.IsScalar) :
    Node.isInvocation c.marker args = true ↔ c.MarkLeads args := by
  constructor
  · intro h
    cases args with
    | nil => cases h
    | cons a more =>
      cases a with
      | str text => exact ⟨text, more, rfl, h⟩
      | seq items => exact (scalar _ List.mem_cons_self).elim
      | _ => cases h
  · rintro ⟨text, more, rfl, h⟩
    exact h

/-! ## One more call -/

/-- What compiles to a schema is an invocation. -/
theorem isInvocation_of_schema {items : List Node} {s : Schema} (h : (c.compile (.seq items)).result = .ok (.schema s)) :
    Node.isInvocation c.marker items = true := by
  by_contra plain
  rw [compile, if_neg plain, Traced.result_bind] at h
  obtain ⟨terms, -, h⟩ := bind_eq_ok_iff.mp h
  cases h

variable {first rest : List Node} {s : Schema}

/-- A chain goes on from the schema that it describes. -/
theorem result_compile_append (hchain : (c.compile (.seq (.seq first :: rest))).result = .ok (.schema s)) (more : List Node) :
    (c.compile (.seq (.seq first :: (rest ++ more)))).result = more.foldlM c.afterElement (.schema s) := by
  rw [c.result_compile_extended (c.isInvocation_of_schema hchain), hchain]
  rfl

/-- Without custom builders, a name with the marker in front of it stands for a member of the schema before it, or else for a root
builder. -/
theorem resolve_marked (empty : c.registry = Registry.empty) {receiver : Option Term} {name : String} {binding : Binding}
    (h : (memberOf? receiver name <|> (Root.named? name).map .root) = some binding) :
    c.resolve (.str (c.marker ++ name)) receiver = .ok binding := by
  rw [resolve_str, c.lookup?_of_empty empty, Text.afterFirst?_append, Option.bind_some, h]
  rfl

/-- One more call gives what the member gives for the arguments that it is given. -/
theorem result_compile_call (empty : c.registry = Registry.empty)
    (hchain : (c.compile (.seq (.seq first :: rest))).result = .ok (.schema s)) {name : String} {member : Member}
    (hm : Member.named? s.tag name = some member) (raw : List Node) :
    (c.compile (.seq (.seq first :: (rest ++ [.seq (.str (c.marker ++ name) :: raw)])))).result =
      c.argumentsOf (.member member s) raw >>= fun args =>
        ((member.build s ⟨name, args⟩).map Term.schema).mapError CompileError.build := by
  rw [c.result_compile_append hchain, List.foldlM_cons]
  simp only [List.foldlM_nil, bind_pure]
  show (c.invoke (.str (c.marker ++ name) :: raw) (some (.schema s))).result = _
  have hfound : (memberOf? (some (.schema s)) name <|> (Root.named? name).map .root) = some (.member member s) := by
    rw [memberOf?_eq_some_iff.mpr ⟨s, member, rfl, hm, rfl⟩]
    rfl
  rw [result_invoke_str, c.resolve_marked empty hfound]
  have hname := (Member.exposedBy_of_named? hm).2
  subst hname
  rfl

/-- A call of a root builder gives what the builder gives for the arguments that it is given. -/
theorem result_compile_rootCall (empty : c.registry = Registry.empty) (r : Root) (raw : List Node) :
    (c.compile (.seq (.str (c.marker ++ r.name) :: raw))).result =
      c.argumentsOf (.root r) raw >>= fun args => (r.build ⟨r.name, args⟩).mapError .build := by
  have marked : Node.isInvocation c.marker (.str (c.marker ++ r.name) :: raw) = true :=
    (Text.occursIn_iff _ _).mpr ⟨"", r.name, by simp⟩
  have hfound : (memberOf? none r.name <|> (Root.named? r.name).map .root) = some (.root r) := by
    rw [memberOf?_root, Root.named?_name]
    rfl
  rw [c.compile_invocation marked, result_invoke_str, c.resolve_marked empty hfound]
  rfl

/-! ## Arguments as they are written -/

/-- Scalars are passed as they are written, if they do not all count as nothing and no text with the marker in it leads them. -/
theorem argumentsOf_scalars {binding : Binding} (noPattern : binding.takesPattern = false) {args : List Node}
    (scalar : ∀ a ∈ args, a.IsScalar) (something : ∃ a ∈ args, (Term.literal a.toJson).isFalsy = false)
    (unmarked : ¬c.MarkLeads args) : c.argumentsOf binding args = .ok (args.map fun a => Term.literal a.toJson) := by
  have plain : Node.isInvocation c.marker args = false := by
    rw [← Bool.not_eq_true, c.isInvocation_scalars_iff scalar]
    exact unmarked
  have passes : ((args.map fun a => Term.literal a.toJson).all Term.isFalsy) = false := by
    obtain ⟨a, ha, h⟩ := something
    exact List.all_eq_false.mpr ⟨_, List.mem_map_of_mem ha, by simp [h]⟩
  rw [c.argumentsOf_eq binding plain, c.calledArguments_of_not_takesPattern noPattern, c.mapM_compile_scalars scalar]
  show Except.ok (if _ then _ else _) = _
  rw [passes]
  rfl

/-- Without custom builders, a name stands for a builder that gives a schema or a reference. -/
theorem schema_or_reference_of_call (empty : c.registry = Registry.empty) {name : Node} {receiver : Option Term} {binding : Binding}
    (hb : c.resolve name receiver = .ok binding) {args : List Term} {t : Term} (h : binding.call args = .ok t) :
    (∃ s, t = .schema s) ∨ ∃ ref, t = .reference ref := by
  obtain ⟨s, -, hlookup⟩ := c.lookup?_of_resolve hb
  rcases c.member_or_root_of_lookup? empty hlookup with ⟨before, m, -, -, -, rfl⟩ | ⟨r, rfl⟩
  · obtain ⟨s, -, rfl⟩ := map_eq_ok_iff.mp h
    exact Or.inl ⟨s, rfl⟩
  · exact r.schema_or_reference_of_build h

/-- A call that a name heads gives a schema or a reference. -/
theorem schema_or_reference_of_invoke (empty : c.registry = Registry.empty) {name : String} {raw : List Node}
    {receiver : Option Term} {t : Term} (h : (c.invoke (.str name :: raw) receiver).result = .ok t) :
    (∃ s, t = .schema s) ∨ ∃ ref, t = .reference ref := by
  rw [result_invoke_str] at h
  obtain ⟨binding, hb, h⟩ := bind_eq_ok_iff.mp h
  obtain ⟨args, -, h⟩ := bind_eq_ok_iff.mp h
  exact c.schema_or_reference_of_call empty hb (mapError_eq_ok_iff.mp h)

/-- Going on with a shape gives a schema or a reference. -/
theorem schema_or_reference_of_continueWithShape {acc t : Term} (h : (c.continueWithShape acc).result = .ok t) :
    (∃ s, t = .schema s) ∨ ∃ ref, t = .reference ref := by
  unfold continueWithShape at h
  split at h
  · exact Root.schema_or_reference_of_build _ (mapError_eq_ok_iff.mp h)
  · split at h
    · cases h
    · obtain ⟨s, -, rfl⟩ := map_eq_ok_iff.mp h
      exact Or.inl ⟨s, rfl⟩
  · cases h
  · cases h

/-- Without custom builders, what is so of schemas and references, and stays so when a term is put after another, is so of whatever a
call or a chain of calls gives. -/
theorem of_invoke (empty : c.registry = Registry.empty) {p : Term → Prop}
    (single : ∀ t, ((∃ s, t = .schema s) ∨ ∃ ref, t = .reference ref) → p t)
    (appended : ∀ acc value, p acc → p (append acc value)) (items : List Node) (receiver : Option Term) {t : Term}
    (h : (c.invoke items receiver).result = .ok t) : p t := by
  match items with
  | [] => cases h
  | .seq first :: rest =>
    rw [result_invoke_seq] at h
    obtain ⟨acc, hacc, h⟩ := bind_eq_ok_iff.mp h
    refine of_foldlM_eq_ok h (of_invoke empty single appended first none hacc) fun n hn acc t hacc ht => ?_
    -- An element is a call after a term, or goes on with a shape, or is put in a list with the term.
    match n with
    | .seq items => exact of_invoke empty single appended items (some acc) ht
    | .str text =>
      by_cases hs : text = c.shapeMarker
      · exact single t (c.schema_or_reference_of_continueWithShape ((if_pos hs).symm.trans ht))
      · cases (if_neg hs).symm.trans ht
        exact appended acc _ hacc
    | .null | .bool _ | .num _ | .pattern _ | .map _ =>
      obtain ⟨value, -, rfl⟩ := map_eq_ok_iff.mp ht
      exact appended acc value hacc
  | .str name :: raw => exact single t (c.schema_or_reference_of_invoke empty h)
  | .null :: _ | .bool _ :: _ | .num _ :: _ | .pattern _ :: _ | .map _ :: _ => cases h
termination_by sizeOf items
decreasing_by
  · simp only [List.cons.sizeOf_spec, Node.seq.sizeOf_spec]
    omega
  · have := List.sizeOf_lt_of_mem hn
    simp only [List.cons.sizeOf_spec, Node.seq.sizeOf_spec] at this ⊢
    omega

/-- Behind a text with the marker in it, a schema or a reference is passed in place of the arguments. -/
theorem argumentsOf_marked (empty : c.registry = Registry.empty) {binding : Binding} (noPattern : binding.takesPattern = false)
    {args : List Node} (marked : c.MarkLeads args) {items : List Term} (h : c.argumentsOf binding args = .ok items) :
    ∃ t, items = [t] ∧ ((∃ s, t = .schema s) ∨ ∃ ref, t = .reference ref) := by
  obtain ⟨text, more, rfl, hmark⟩ := marked
  unfold argumentsOf at h
  rw [if_neg (by simp [noPattern]), if_pos (show Node.isInvocation c.marker (.str text :: more) = true from hmark)] at h
  obtain ⟨t, ht, rfl⟩ := map_eq_ok_iff.mp h
  have single := c.schema_or_reference_of_invoke empty ht
  refine ⟨t, ?_, single⟩
  obtain ⟨s, rfl⟩ | ⟨ref, rfl⟩ := single <;> rfl

/-- A member of the schema that a chain describes, called with scalars that do not all count as nothing, is given them as they are
written, and so the chain gives what the member gives: unless the first of them is a text with the marker in it. Then the chain
never gives the schema that the member gives for the scalars. -/
theorem compile_scalars_as_written (empty : c.registry = Registry.empty)
    (hchain : (c.compile (.seq (.seq first :: rest))).result = .ok (.schema s)) {name : String} (noPattern : name ≠ "matches")
    {args : List Node} (scalar : ∀ a ∈ args, a.IsScalar) (something : ∃ a ∈ args, (Term.literal a.toJson).isFalsy = false)
    {answer : Except BuildError Term} (hcall : Member.call? s name (args.map fun a => Term.literal a.toJson) = some answer) :
    (¬c.MarkLeads args →
      (c.compile (.seq (.seq first :: (rest ++ [.seq (.str (c.marker ++ name) :: args)])))).result = answer.mapError .build) ∧
    ∀ t, answer = .ok t →
      ((c.compile (.seq (.seq first :: (rest ++ [.seq (.str (c.marker ++ name) :: args)])))).result = .ok t ↔
        ¬c.MarkLeads args) := by
  obtain ⟨member, hm, rfl⟩ := Option.map_eq_some_iff.mp hcall
  have hpattern : (Binding.member member s).takesPattern = false := by
    rw [← Bool.not_eq_true, takesPattern_iff]
    rintro ⟨-, hmatches⟩
    exact noPattern ((Member.exposedBy_of_named? hm).2.symm.trans hmatches)
  have written : ¬c.MarkLeads args →
      (c.compile (.seq (.seq first :: (rest ++ [.seq (.str (c.marker ++ name) :: args)])))).result =
        ((member.build s ⟨name, args.map fun a => Term.literal a.toJson⟩).map Term.schema).mapError .build := by
    intro unmarked
    rw [c.result_compile_call empty hchain hm, c.argumentsOf_scalars hpattern scalar something unmarked]
    rfl
  refine ⟨written, fun t ht => ⟨fun hcompile hmark => ?_, fun unmarked => ?_⟩⟩
  · -- The member would give one schema for the scalars, which a text leads, and for what that text calls.
    rw [c.result_compile_call empty hchain hm] at hcompile
    obtain ⟨items, hitems, hcompile⟩ := bind_eq_ok_iff.mp hcompile
    obtain ⟨t', rfl, single⟩ := c.argumentsOf_marked empty hpattern hmark hitems
    obtain ⟨s₁, htext, rfl⟩ := map_eq_ok_iff.mp ht
    obtain ⟨s₂, hsingle, hs₂⟩ := map_eq_ok_iff.mp (mapError_eq_ok_iff.mp hcompile)
    obtain ⟨text, more, rfl, -⟩ := hmark
    have hliterals : (List.map (fun a => Term.literal a.toJson) (.str text :: more)) =
        (Json.str text :: more.map Node.toJson).map Term.literal := by simp [Node.toJson, Function.comp_def]
    rw [hliterals] at htext
    exact Member.build_text_ne_build_single member single htext hsingle (Term.schema.inj hs₂).symm
  · rw [written unmarked, ht]
    rfl

namespace ContinuationWitness

open SmallCase (compiler)

/-- The schema of texts, under a name. -/
def labelled (text : String) : Schema :=
  (Schema.ofTag .string).label text

theorem compile_label_and_marked_label :
    (compiler.compile (.seq [.seq [.str "do.string"]])).result = .ok (.schema (.ofTag .string)) ∧
    (compiler.compile (.seq [.seq [.str "do.string"], .seq [.str "do.label", .str "Name"]])).result =
      .ok (.schema (labelled "Name")) ∧
    (compiler.compile (.seq [.seq [.str "do.string"], .seq [.str "do.label", .str "do.string"]])).result ≠
      .ok (.schema (labelled "do.string")) := by
  have hchain : (compiler.compile (.seq [.seq [.str "do.string"]])).result = .ok (.schema (.ofTag .string)) := rfl
  have scalar : ∀ text, ∀ a ∈ [Node.str text], a.IsScalar := by simp [Node.IsScalar]
  have hcall : ∀ text, Member.call? (.ofTag .string) "label" ([Node.str text].map fun a => Term.literal a.toJson) =
      some (.ok (.schema (labelled text))) := fun _ => rfl
  have something : ∃ a ∈ [Node.str "Name"], (Term.literal a.toJson).isFalsy = false := ⟨_, List.mem_cons_self, rfl⟩
  have somethingMarked : ∃ a ∈ [Node.str "do.string"], (Term.literal a.toJson).isFalsy = false := ⟨_, List.mem_cons_self, rfl⟩
  have named := compiler.compile_scalars_as_written rfl hchain (by decide) (scalar "Name") something (hcall "Name")
  have marked := compiler.compile_scalars_as_written rfl hchain (by decide) (scalar "do.string") somethingMarked (hcall "do.string")
  refine ⟨hchain, ?_, ?_⟩
  · refine named.1 ?_
    rw [← compiler.isInvocation_scalars_iff (scalar _)]
    decide
  · exact fun h => (marked.2 _ rfl).mp h ⟨"do.string", [], rfl, by decide⟩

/-- Texts with the marker in them that lead the arguments of a label and of a set, where the chain does not give what the member
gives. -/
theorem marked_texts_are_called :
    (compiler.compile (.seq [.seq [.str "do.string"]])).result = .ok (.schema (.ofTag .string)) ∧
    (Member.call? (.ofTag .string) "label" [.literal (.str "do.string")] = some (.ok (.schema (labelled "do.string"))) ∧
      (compiler.compile (.seq [.seq [.str "do.string"], .seq [.str "do.label", .str "do.string"]])).result =
        .error (.build (.invalidArgument "label" 0 "a string"))) ∧
    (Member.call? (.ofTag .string) "oneOf" [.literal (.str "do.ref"), .literal (.str "other")] =
        some (.ok (.schema ((Schema.ofTag .string).oneOf [.value (.str "do.ref"), .value (.str "other")] none))) ∧
      (compiler.compile (.seq [.seq [.str "do.string"], .seq [.str "do.oneOf", .str "do.ref", .str "other"]])).result =
        .ok (.schema ((Schema.ofTag .string).oneOf [.reference ⟨"other"⟩] none))) :=
  ⟨rfl, ⟨rfl, rfl⟩, rfl, rfl⟩

end ContinuationWitness

end Compiler

end Schemata
