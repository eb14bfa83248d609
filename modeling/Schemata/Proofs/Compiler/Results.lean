import Schemata.Compiler.Compile

/-!
# Results of compiling

What compiling gives, without the record of how: an equation for each part of the compiler. Items and fields are compiled in order and
the first error wins; a chain is a fold over its elements (`result_chain`), and a call is a name, then its arguments, then its builder
(`result_invoke_str`).
-/

namespace Schemata

namespace Traced

variable {α β : Type}

@[simp] theorem result_pure (a : α) : (pure a : Traced α).result = .ok a := rfl

@[simp] theorem result_ofExcept (x : Except CompileError α) : (ofExcept x).result = x := rfl

@[simp] theorem result_recordIf (condition : Bool) (e : Event) : (recordIf condition e).result = .ok () := by
  cases condition <;> rfl

/-- The result of going on is what goes on from the result. -/
@[simp] theorem result_bind (x : Traced α) (f : α → Traced β) : (x >>= f).result = x.result >>= fun a => (f a).result := by
  obtain ⟨events, result⟩ := x
  cases result <;> rfl

@[simp] theorem result_map (f : α → β) (x : Traced α) : (f <$> x).result = f <$> x.result := by
  obtain ⟨events, result⟩ := x
  cases result <;> rfl

end Traced

/-- Null, a truth value, a number or a text. -/
def Node.IsScalar : Node → Prop
  | .null | .bool _ | .num _ | .str _ => True
  | _ => False

namespace Compiler

variable (c : Compiler)

/-! ## Scalars, lists and shapes -/

/-- Scalars compile to themselves. -/
theorem compile_scalar {n : Node} (h : n.IsScalar) : c.compile n = pure (.literal n.toJson) := by
  cases n with
  | null | bool | num | str => rfl
  | _ => exact h.elim

/-- Items compile in order. -/
theorem result_compileItems (items : List Node) : (c.compileItems items).result = items.mapM fun n => (c.compile n).result := by
  induction items with
  | nil => rfl
  | cons n rest ih =>
    unfold compileItems
    simp only [Traced.result_bind, Traced.result_pure, ih, List.mapM_cons]
    rfl

/-- The items after the first compile in order. -/
theorem result_compileRest (items : List Node) : (c.compileRest items).result = items.tail.mapM fun n => (c.compile n).result := by
  unfold compileRest
  cases items with
  | nil => rfl
  | cons n rest => exact result_compileItems c rest

/-- Fields compile in order, each under its key. -/
theorem result_compileFields (fields : List (String × Node)) :
    (c.compileFields fields).result = fields.mapM fun (key, n) => (key, ·) <$> (c.compile n).result := by
  induction fields with
  | nil => rfl
  | cons entry rest ih =>
    obtain ⟨key, n⟩ := entry
    unfold compileFields
    simp only [Traced.result_bind, Traced.result_pure, ih, List.mapM_cons, map_eq_pure_bind, bind_assoc, pure_bind]
    rfl

/-- A mapping compiles to the shape of its fields. -/
theorem result_compile_map (fields : List (String × Node)) :
    (c.compile (.map fields)).result = Term.shape <$> (c.compileFields fields).result := by
  rw [compile, Traced.result_bind]
  cases (c.compileFields fields).result <;> rfl

/-- An invocation compiles with no term before it. -/
theorem compile_invocation {items : List Node} (h : Node.isInvocation c.marker items = true) :
    c.compile (.seq items) = c.invoke items none := by
  unfold compile
  rw [if_pos h]

/-! ## Chains -/

/-- The term after one more element of a chain. -/
def afterElement (acc : Term) : Node → Except CompileError Term
  | .seq items => (c.invoke items (some acc)).result
  | .str s => if s = c.shapeMarker then (c.continueWithShape acc).result else .ok (append acc (.literal (.str s)))
  | n => append acc <$> (c.compile n).result

/-- An element that is neither a sequence nor a text is put in a list with what came before it. -/
theorem chain_other {n : Node} (notSeq : ∀ items, n ≠ .seq items) (notText : ∀ s, n ≠ .str s) (rest : List Node) (step : Nat)
    (acc : Term) :
    c.chain (n :: rest) step acc = (do
      let acc := append acc (← c.compile n)
      Traced.recordIf c.diagnostics (.step step acc.kindName)
      c.chain rest (step + 1) acc) := by
  rw [chain]
  · exact notSeq
  · exact notText

/-- One step of a chain: the term after its first element, and then the rest. -/
theorem result_chain_cons (n : Node) (rest : List Node) (step : Nat) (acc : Term) :
    (c.chain (n :: rest) step acc).result = c.afterElement acc n >>= fun acc => (c.chain rest (step + 1) acc).result := by
  cases n with
  | str s =>
    rw [chain, afterElement]
    split <;> simp only [Traced.result_bind, Traced.result_recordIf, Traced.result_pure] <;> rfl
  | seq items =>
    rw [chain, afterElement]
    simp only [Traced.result_bind, Traced.result_recordIf]
    rfl
  | _ =>
    simp only [chain, afterElement, Traced.result_bind, Traced.result_recordIf, map_eq_pure_bind, bind_assoc, pure_bind]
    rfl

/-- A chain is a fold over its elements, from the term before them on. -/
theorem result_chain (elements : List Node) (step : Nat) (acc : Term) :
    (c.chain elements step acc).result = elements.foldlM c.afterElement acc := by
  induction elements generalizing step acc with
  | nil =>
    unfold chain
    rfl
  | cons n rest ih =>
    rw [result_chain_cons, List.foldlM_cons]
    congr 1
    funext acc
    exact ih (step + 1) acc

/-- A sequence that a sequence heads is a chain: its head is compiled anew, and the rest goes on from there. -/
theorem result_invoke_seq (first rest : List Node) (receiver : Option Term) :
    (c.invoke (.seq first :: rest) receiver).result = (c.invoke first none).result >>= rest.foldlM c.afterElement := by
  rw [invoke]
  simp only [Traced.result_bind, result_chain]

/-- A chain goes on from what it compiles to. -/
theorem result_compile_extended {first rest : List Node} (inv : Node.isInvocation c.marker (.seq first :: rest) = true)
    (more : List Node) :
    (c.compile (.seq (.seq first :: (rest ++ more)))).result =
      (c.compile (.seq (.seq first :: rest))).result >>= more.foldlM c.afterElement := by
  have hlonger : Node.isInvocation c.marker (.seq first :: (rest ++ more)) = true := inv
  rw [c.compile_invocation inv, c.compile_invocation hlonger, result_invoke_seq, result_invoke_seq, bind_assoc]
  congr 1
  funext acc
  rw [List.foldlM_append]

/-- A chain that an invocation heads goes on from what the invocation compiles to. -/
theorem result_compile_headed {items : List Node} (inv : Node.isInvocation c.marker items = true) (more : List Node) :
    (c.compile (.seq (.seq items :: more))).result = (c.compile (.seq items)).result >>= more.foldlM c.afterElement := by
  have hchain : Node.isInvocation c.marker (.seq items :: more) = true := inv
  rw [c.compile_invocation inv, c.compile_invocation hchain, result_invoke_seq]

/-! ## Calls -/

/-- A builder that a node names is the one that the name of the node stands for. -/
theorem lookup?_of_resolve {name : Node} {receiver : Option Term} {binding : Binding}
    (h : c.resolve name receiver = .ok binding) : ∃ s, nameSlot name = .str s ∧ c.lookup? s receiver = some binding := by
  unfold resolve at h
  split at h
  · rename_i s hs
    refine ⟨s, hs, ?_⟩
    cases hl : c.lookup? s receiver with
    | none =>
      rw [hl] at h
      cases h
    | some found =>
      rw [hl] at h
      cases h
      rfl
  · cases h

/-- The arguments that the items after a name compile to. -/
def argumentsOf (binding : Binding) (raw : List Node) : Except CompileError (List Term) :=
  match if binding.takesPattern then leadingPattern? raw else none with
  | some lead => do
    let p ← lead
    (Term.pattern p :: ·) <$> raw.tail.mapM fun n => (c.compile n).result
  | none =>
    passed <$> if Node.isInvocation c.marker raw then (c.invoke raw none).result
      else Term.list <$> raw.mapM fun n => (c.compile n).result

/-- Builders that take no pattern get the same arguments. -/
theorem argumentsOf_eq_of_not_takesPattern {binding binding' : Binding} (noPattern : binding.takesPattern = false)
    (noPattern' : binding'.takesPattern = false) (raw : List Node) : c.argumentsOf binding raw = c.argumentsOf binding' raw := by
  unfold argumentsOf
  rw [noPattern, noPattern']

/-- The items after a name are compiled to the arguments of the builder that the name stands for. -/
def compileArguments (binding : Binding) (raw : List Node) : Traced (List Term) :=
  match if binding.takesPattern then leadingPattern? raw else none with
  | some lead => do
    let p ← Traced.ofExcept lead
    (Term.pattern p :: ·) <$> c.compileRest raw
  | none =>
    passed <$> if Node.isInvocation c.marker raw then c.invoke raw none else Term.list <$> c.compileItems raw

@[simp] theorem result_compileArguments (binding : Binding) (raw : List Node) :
    (c.compileArguments binding raw).result = c.argumentsOf binding raw := by
  rw [compileArguments, argumentsOf]
  -- A builder that takes a pattern may find one written out; every other argument list is compiled as it is.
  cases hl : (if binding.takesPattern then leadingPattern? raw else none) with
  | some lead =>
    simp only [Traced.result_bind, Traced.result_ofExcept, Traced.result_map, result_compileRest]
  | none =>
    by_cases h : Node.isInvocation c.marker raw = true
    · simp only [if_pos h, Traced.result_map]
    · simp only [if_neg h, Traced.result_map, result_compileItems]

/-- Anything but a sequence at the head of an invocation is a name: it is looked up, then come the arguments, then the call. -/
theorem invoke_name {name : Node} (notSeq : ∀ items, name ≠ .seq items) (raw : List Node) (receiver : Option Term) :
    c.invoke (name :: raw) receiver = (do
      let binding ← Traced.ofExcept (c.resolve name receiver)
      Traced.recordIf c.diagnostics (.resolved name.text binding.source binding.name raw.length)
      let args ← c.compileArguments binding raw
      Traced.ofExcept ((binding.call args).mapError .build)) := by
  rw [invoke]
  · refine bind_congr fun binding => bind_congr fun _ => ?_
    rw [compileArguments]
    cases if binding.takesPattern then leadingPattern? raw else none with
    | some lead => simp only [bind_assoc]
    | none => rfl
  · exact notSeq

/-- A call: the builder that the name stands for, its arguments, and what it gives for them. Anything but a sequence is a name. -/
theorem result_invoke_name {name : Node} (notSeq : ∀ items, name ≠ .seq items) (raw : List Node) (receiver : Option Term) :
    (c.invoke (name :: raw) receiver).result =
      (c.resolve name receiver >>= fun binding => c.argumentsOf binding raw >>= fun args =>
        (binding.call args).mapError .build) := by
  rw [c.invoke_name notSeq]
  simp only [Traced.result_bind, Traced.result_ofExcept, Traced.result_recordIf, result_compileArguments]
  rfl

/-- So it is when the name is a text. -/
theorem result_invoke_str (name : String) (raw : List Node) (receiver : Option Term) :
    (c.invoke (.str name :: raw) receiver).result =
      (c.resolve (.str name) receiver >>= fun binding => c.argumentsOf binding raw >>= fun args =>
        (binding.call args).mapError .build) :=
  c.result_invoke_name (by simp) raw receiver

/-! ## A compiler for small cases -/

namespace SmallCase

theorem marker_ne : "do." ≠ "" := by decide

/-- A compiler without custom builders. -/
def compiler : Compiler :=
  ⟨"do.", Registry.empty, false, marker_ne⟩

end SmallCase

end Compiler

end Schemata
