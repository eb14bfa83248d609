import Schemata.Proofs.Compiler.Results
import Schemata.Proofs.Text.Cut

/-!
# Chains of calls

A chain of calls compiles to what its builders give, called by hand from left to right: `Compiler.called` finds a builder, compiles
its arguments and calls it, with the term that the call before gave. A name that begins a chain carries the marker, and no argument
list is itself a call.
-/

namespace Schemata

/-- A call as it is written: a name, and what stands after it. -/
structure Call where
  name : String
  raw : List Node

/-- The sequence that writes a call. -/
def Call.node (call : Call) : Node :=
  .seq (.str call.name :: call.raw)

/-! ## Names of root builders and of members -/

/-- A root builder is found under its own name only. -/
theorem Root.name_of_named? {name : String} {r : Root} (h : Root.named? name = some r) : r.name = name := by
  simpa using List.find?_some h

/-- No schema has a member with the name of a root builder. -/
theorem Member.named?_root (tag : Tag) (r : Root) : Member.named? tag r.name = none := by
  cases tag <;> cases r <;> rfl

namespace Compiler

/-- What a term has under a name is a member that schemas of its kind have. -/
theorem memberOf?_eq_some_iff {receiver : Option Term} {name : String} {binding : Binding} :
    memberOf? receiver name = some binding ↔
      ∃ s m, receiver = some (.schema s) ∧ Member.named? s.tag name = some m ∧ binding = .member m s := by
  constructor
  · intro h
    unfold memberOf? at h
    split at h
    · obtain ⟨m, hm, rfl⟩ := Option.map_eq_some_iff.mp h
      exact ⟨_, m, rfl, hm, rfl⟩
    · cases h
  · rintro ⟨s, m, rfl, hm, rfl⟩
    rw [memberOf?, hm]
    rfl

/-- No term has a member with the name of a root builder. -/
theorem memberOf?_root (receiver : Option Term) (r : Root) : memberOf? receiver r.name = none := by
  rw [Option.eq_none_iff_forall_ne_some]
  intro binding h
  obtain ⟨s, m, -, hm, -⟩ := memberOf?_eq_some_iff.mp h
  rw [Member.named?_root] at hm
  cases hm

variable (c : Compiler)

/-! ## A call by hand -/

/-- The builder that a name calls: the custom builder of the name as it stands; else, by what follows the first marker in the name, a
custom builder, a member of the schema before the call, or a root builder. -/
def calledBuilder? (receiver : Option Term) (name : String) : Option Binding :=
  (c.registry.get? name).map (.custom name) <|>
    (Text.afterFirst? c.marker name).bind fun bare =>
      (c.registry.get? bare).map (.custom bare) <|>
        (match receiver with
          | some (.schema s) => (Member.named? s.tag bare).map (.member · s)
          | _ => none) <|>
        (Root.named? bare).map .root

/-- The compiled arguments of a call, the first error first. For the builder of the library that takes a pattern, a text in the first
place is one, and neither a number nor a truth value may stand there. -/
def calledArguments (binding : Binding) (raw : List Node) : Except CompileError (List Term) :=
  if binding.isLibrary ∧ binding.name = "matches" then
    match raw with
    | .str s :: rest => do
      let p ← (Node.compilePattern s s).mapError fun e => .argument "matches" (.badPattern e)
      let args ← rest.mapM fun n => (c.compile n).result
      return .pattern p :: args
    | .num x :: _ => .error (.argument "matches" (.noPattern (Node.num x).text))
    | .bool b :: _ => .error (.argument "matches" (.noPattern (Node.bool b).text))
    | raw => raw.mapM fun n => (c.compile n).result
  else raw.mapM fun n => (c.compile n).result

/-- What a call gives after a term: arguments that all count as nothing are not passed. -/
def called (receiver : Option Term) (call : Call) : Except CompileError Term :=
  match c.calledBuilder? receiver call.name with
  | none => .error (.unresolved call.name)
  | some binding => do
    let args ← c.calledArguments binding call.raw
    (binding.call (if args.all Term.isFalsy then [] else args)).mapError .build

/-! ## The compiler calls as by hand -/

/-- The compiler finds the builder that is called. -/
theorem lookup?_eq_calledBuilder? (name : String) (receiver : Option Term) :
    c.lookup? name receiver = c.calledBuilder? receiver name := by
  unfold lookup? calledBuilder?
  rw [← Text.map_snd_cutAt?]
  cases c.registry.get? name with
  | some builder => rfl
  | none =>
    cases Text.cutAt? c.marker name with
    | none => rfl
    | some cut =>
      obtain ⟨before, bare⟩ := cut
      cases h : c.registry.get? bare with
      | some builder => simp [h]
      | none =>
        rcases receiver with _ | (_ | _ | _ | _ | s | _) <;> simp [h, memberOf?]

/-- A name that is looked up is found, or it is the error. -/
theorem resolve_str (name : String) (receiver : Option Term) :
    c.resolve (.str name) receiver = (c.lookup? name receiver).elim (.error (.unresolved name)) .ok := rfl

/-- Without custom builders, what follows the first marker in a name is the name of a member, or else of a root builder. -/
theorem lookup?_of_empty (empty : c.registry = Registry.empty) (name : String) (receiver : Option Term) :
    c.lookup? name receiver =
      (Text.afterFirst? c.marker name).bind fun bare => memberOf? receiver bare <|> (Root.named? bare).map .root := by
  rw [lookup?_eq_calledBuilder?, calledBuilder?, empty]
  rcases receiver with _ | (_ | _ | _ | _ | s | _) <;> rfl

/-- Without custom builders, a name stands for a member of the schema before it or for a root builder. -/
theorem member_or_root_of_lookup? (empty : c.registry = Registry.empty) {name : String} {receiver : Option Term}
    {binding : Binding} (h : c.lookup? name receiver = some binding) :
    (∃ s m bare, receiver = some (.schema s) ∧ Member.named? s.tag bare = some m ∧ binding = .member m s) ∨
      ∃ r, binding = .root r := by
  rw [c.lookup?_of_empty empty] at h
  obtain ⟨bare, -, h⟩ := Option.bind_eq_some_iff.mp h
  cases hmember : memberOf? receiver bare with
  | some found =>
    rw [hmember] at h
    cases h
    obtain ⟨s, m, hs, hm, rfl⟩ := memberOf?_eq_some_iff.mp hmember
    exact Or.inl ⟨s, m, bare, hs, hm, rfl⟩
  | none =>
    rw [hmember] at h
    obtain ⟨r, -, rfl⟩ := Option.map_eq_some_iff.mp h
    exact Or.inr ⟨r, rfl⟩

/-- The one builder of the library that takes a pattern is known by its name. -/
theorem takesPattern_iff (binding : Binding) :
    binding.takesPattern = true ↔ binding.isLibrary = true ∧ binding.name = "matches" := by
  cases binding with
  | custom name builder => simp [Binding.takesPattern, Binding.isLibrary, Binding.source]
  | member m receiver => cases m <;> simp [Binding.takesPattern, Binding.isLibrary, Binding.source, Binding.name, Member.name]
  | root r => cases r <;> simp [Binding.takesPattern, Binding.name, Root.name]

/-- Any other builder gets its arguments compiled one by one. -/
theorem calledArguments_of_not_takesPattern {binding : Binding} (h : binding.takesPattern = false) (raw : List Node) :
    c.calledArguments binding raw = raw.mapM fun n => (c.compile n).result := by
  have hname : ¬(binding.isLibrary = true ∧ binding.name = "matches") := by
    rw [← takesPattern_iff, h]
    decide
  unfold calledArguments
  rw [if_neg hname]

/-- The compiler passes the arguments of a call, unless they all count as nothing. -/
theorem argumentsOf_eq (binding : Binding) {raw : List Node} (plain : Node.isInvocation c.marker raw = false) :
    c.argumentsOf binding raw =
      (fun args => if args.all Term.isFalsy then [] else args) <$> c.calledArguments binding raw := by
  have hlist : (passed <$> Term.list <$> raw.mapM fun n => (c.compile n).result) =
      (fun args => if args.all Term.isFalsy then [] else args) <$> raw.mapM fun n => (c.compile n).result := by
    rw [← comp_map]
    rfl
  by_cases hb : binding.takesPattern = true
  · unfold argumentsOf calledArguments
    rw [if_pos hb, if_pos ((takesPattern_iff binding).mp hb)]
    -- A pattern is not nothing, so it is passed with whatever follows it.
    cases raw with
    | nil => exact hlist
    | cons n rest =>
      cases n with
      | str s =>
        show (patternArgument s >>= fun p => (Term.pattern p :: ·) <$> rest.mapM fun n => (c.compile n).result) =
          _ <$> (patternArgument s >>= fun p => _)
        cases patternArgument s with
        | error e => rfl
        | ok p => cases rest.mapM fun n => (c.compile n).result <;> rfl
      | num x => rfl
      | bool b => rfl
      | _ =>
        simp only [leadingPattern?, plain, Bool.false_eq_true, if_false]
        exact hlist
  · unfold argumentsOf
    rw [if_neg hb, plain, c.calledArguments_of_not_takesPattern (Bool.eq_false_iff.mpr hb)]
    exact hlist

/-- What the compiler makes of a call is what the call gives by hand. -/
theorem result_invoke_call (receiver : Option Term) (call : Call) (plain : Node.isInvocation c.marker call.raw = false) :
    (c.invoke (.str call.name :: call.raw) receiver).result = c.called receiver call := by
  have hfound : c.resolve (.str call.name) receiver =
      (c.calledBuilder? receiver call.name).elim (.error (.unresolved call.name)) .ok := by
    rw [resolve_str, lookup?_eq_calledBuilder?]
  rw [result_invoke_str, hfound, called]
  cases c.calledBuilder? receiver call.name with
  | none => rfl
  | some binding =>
    show (c.argumentsOf binding call.raw >>= _) = _
    rw [c.argumentsOf_eq binding plain, bind_map_left]

/-- Every further call of a chain goes on from the term that the calls before it gave. -/
theorem foldlM_afterElement (acc : Term) {calls : List Call}
    (plain : ∀ call ∈ calls, Node.isInvocation c.marker call.raw = false) :
    (calls.map Call.node).foldlM c.afterElement acc = calls.foldlM (fun acc call => c.called (some acc) call) acc := by
  induction calls generalizing acc with
  | nil => rfl
  | cons call rest ih =>
    have hstep : c.afterElement acc call.node = c.called (some acc) call :=
      c.result_invoke_call (some acc) call (plain call List.mem_cons_self)
    rw [List.map_cons, List.foldlM_cons, List.foldlM_cons, hstep]
    congr 1
    funext acc
    exact ih acc fun call h => plain call (List.mem_cons_of_mem _ h)

/-- A chain of calls goes on from what the first of them gives. -/
theorem result_compile_chain (first : Call) (rest : List Call) (marked : Text.occursIn c.marker first.name = true) :
    (c.compile (.seq ((first :: rest).map Call.node))).result =
      (c.invoke (.str first.name :: first.raw) none).result >>= (rest.map Call.node).foldlM c.afterElement := by
  have hinv : Node.isInvocation c.marker ((first :: rest).map Call.node) = true := by
    simpa [Node.isInvocation, Node.headsInvocation, Call.node] using marked
  rw [c.compile_invocation hinv, List.map_cons, Call.node, result_invoke_seq]

/-- A chain of calls: the first, after nothing, and each further one after the term of those before it. -/
theorem result_compile_calls (first : Call) (rest : List Call) (marked : Text.occursIn c.marker first.name = true)
    (plain : ∀ call ∈ first :: rest, Node.isInvocation c.marker call.raw = false) :
    (c.compile (.seq ((first :: rest).map Call.node))).result =
      c.called none first >>= rest.foldlM fun acc call => c.called (some acc) call := by
  rw [c.result_compile_chain first rest marked, c.result_invoke_call none first (plain first List.mem_cons_self)]
  congr 1
  funext acc
  exact c.foldlM_afterElement acc fun call h => plain call (List.mem_cons_of_mem _ h)

/-- A fold that begins with a term never is without one again. -/
theorem foldlM_some (acc : Term) (calls : List Call) :
    calls.foldlM (fun receiver call => some <$> c.called receiver call) (some acc) =
      some <$> calls.foldlM (fun acc call => c.called (some acc) call) acc := by
  induction calls generalizing acc with
  | nil => rfl
  | cons call rest ih =>
    rw [List.foldlM_cons, List.foldlM_cons, bind_map_left, map_bind]
    congr 1
    funext acc
    exact ih acc

/-- A chain of calls compiles to the fold of its calls from left to right, which begins with no term: whatever the marker and the
custom builders are, the first call that fails is the error, and else the last call gives the term. -/
theorem compile_calls_eq_foldlM (first : Call) (rest : List Call)
    (marked : ∃ before after, first.name = before ++ c.marker ++ after)
    (plain : ∀ call ∈ first :: rest, Node.classify c.marker (.seq call.raw) ≠ .invocation) :
    some <$> (c.compile (.seq ((first :: rest).map Call.node))).result =
      (first :: rest).foldlM (fun receiver call => some <$> c.called receiver call) none := by
  have hplain : ∀ call ∈ first :: rest, Node.isInvocation c.marker call.raw = false := by
    intro call h
    simpa [Node.classify] using plain call h
  rw [c.result_compile_calls first rest ((Text.occursIn_iff _ _).mpr marked) hplain, List.foldlM_cons, map_bind, bind_map_left]
  congr 1
  funext acc
  exact (c.foldlM_some acc rest).symm

namespace CallsWitness

/-- A compiler with one custom builder. -/
def compiler : Compiler :=
  ⟨"is.", Registry.empty.register "word" fun _ => .ok (.schema (.ofTag .string)), false, by decide⟩

/-- The custom builder is called by what follows the marker. -/
def word : Call := ⟨"is.word", []⟩

/-- A member is called by what follows the first marker, with an argument that counts as nothing, and then one with another. -/
def refinements : List Call := [⟨"this is.required", [.str ""]⟩, ⟨"is.label", [.str "name"]⟩]

theorem compile_word :
    ((∃ before after, word.name = before ++ compiler.marker ++ after) ∧
      ∀ call ∈ word :: refinements, Node.classify compiler.marker (.seq call.raw) ≠ .invocation) ∧
    some <$> (compiler.compile (.seq ((word :: refinements).map Call.node))).result =
      (word :: refinements).foldlM (fun receiver call => some <$> compiler.called receiver call) none ∧
    (word :: refinements).foldlM (fun receiver call => some <$> compiler.called receiver call) none =
      .ok (some (.schema (((Schema.ofTag .string).required none).label "name"))) := by
  have marked : ∃ before after, word.name = before ++ compiler.marker ++ after := ⟨"", "word", by decide⟩
  have plain : ∀ call ∈ word :: refinements, Node.classify compiler.marker (.seq call.raw) ≠ .invocation := by decide
  exact ⟨⟨marked, plain⟩, compiler.compile_calls_eq_foldlM word refinements marked plain, rfl⟩

end CallsWitness

end Compiler

end Schemata
