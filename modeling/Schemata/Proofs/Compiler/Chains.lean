import Schemata.Proofs.Compiler.Calls

/-!
# Chains in parts

A chain that another chain heads may as well be written out as one (`compile_nested_chain`). A call looks at the term before it only
to find a member of it, and no member has the name of a root builder (`lookup?_eq_or`), so a chain forgets all that is before a call
that begins anew (`compile_from_restart`).
-/

namespace Schemata

namespace Node

/-- A node in a sequence of its own, that in one of its own, and so on, to a depth. -/
def enclosed (n : Node) : Nat → Node
  | 0 => n
  | depth + 1 => .seq [n.enclosed depth]

/-- A sequence of the class of invocations is one. -/
theorem isInvocation_of_classify {marker : String} {items : List Node} (h : classify marker (.seq items) = .invocation) :
    isInvocation marker items = true := by
  by_contra plain
  rw [classify, if_neg plain] at h
  cases h

end Node

namespace Compiler

variable (c : Compiler)

/-- After a term, a name stands for what it stands for without one, or else for a member of the term. -/
theorem lookup?_eq_or (name : String) (receiver : Option Term) :
    c.lookup? name receiver =
      (c.lookup? name none).or ((Text.afterFirst? c.marker name).bind (memberOf? receiver)) := by
  unfold lookup?
  rw [← Text.map_snd_cutAt?]
  cases c.registry.get? name with
  | some builder => rfl
  | none =>
    cases Text.cutAt? c.marker name with
    | none => rfl
    | some cut =>
      obtain ⟨before, bare⟩ := cut
      cases hc : c.registry.get? bare with
      | some builder => simp [hc]
      | none =>
        have halone : memberOf? none bare = none := rfl
        -- At most one of the two look-ups that are left finds something, so their order does not matter.
        cases hr : Root.named? bare with
        | none => simp [hc, hr, halone]
        | some r =>
          have hmember : memberOf? receiver bare = none := by
            rw [← Root.name_of_named? hr]
            exact memberOf?_root receiver r
          simp [hc, hr, halone, hmember]

/-! ## What a call takes from the term before it -/

/-- A call refines a term: the term is a schema, and the name of the call stands for a member of it. -/
def Refines (acc : Term) (items : List Node) : Prop :=
  ∃ name raw s m, items = .str name :: raw ∧ acc = .schema s ∧ c.resolve (.str name) (some acc) = .ok (.member m s)

/-- A call begins anew: a sequence heads it, or its name stands for a custom builder or a root builder with no term before it. -/
def BeginsAnew (items : List Node) : Prop :=
  (∃ first rest, items = .seq first :: rest) ∨
    ∃ name raw binding, items = .str name :: raw ∧ c.resolve (.str name) none = .ok binding ∧
      (binding.source = .custom ∨ binding.source = .root)

/-- What a name stands for without a term, it stands for after every term. -/
theorem resolve_of_resolve_none {name : String} {binding : Binding} (h : c.resolve (.str name) none = .ok binding)
    (receiver : Option Term) : c.resolve (.str name) receiver = .ok binding := by
  obtain ⟨s, hs, hfound⟩ := c.lookup?_of_resolve h
  cases hs
  rw [resolve_str, lookup?_eq_or, hfound]
  rfl

/-- The name of a call that does not refine the term before it stands for what it stands for without one. -/
theorem resolve_of_not_refines {acc : Term} {name : String} {raw : List Node} (h : ¬c.Refines acc (.str name :: raw)) :
    c.resolve (.str name) (some acc) = c.resolve (.str name) none := by
  have hlookup := c.lookup?_eq_or name (some acc)
  rw [resolve_str, resolve_str]
  cases halone : c.lookup? name none with
  | some binding => rw [hlookup, halone, Option.some_or]
  | none =>
    rw [halone, Option.none_or] at hlookup
    cases hfound : c.lookup? name (some acc) with
    | none => rfl
    | some binding =>
      -- All that the term adds to the names is its members.
      rw [hfound] at hlookup
      obtain ⟨bare, -, hmember⟩ := Option.bind_eq_some_iff.mp hlookup.symm
      obtain ⟨s, m, hacc, -, rfl⟩ := memberOf?_eq_some_iff.mp hmember
      cases hacc
      exact (h ⟨name, raw, s, m, rfl, rfl, by rw [resolve_str, hfound]; rfl⟩).elim

/-- A call that does not refine the term before it gives what it gives without one. -/
theorem result_invoke_of_not_refines {acc : Term} {items : List Node} (h : ¬c.Refines acc items) :
    (c.invoke items (some acc)).result = (c.invoke items none).result := by
  match items with
  | [] => rfl
  | .seq first :: rest => rw [result_invoke_seq, result_invoke_seq]
  | .str name :: raw => rw [result_invoke_str, result_invoke_str, c.resolve_of_not_refines h]
  | .null :: _ | .bool _ :: _ | .num _ :: _ | .pattern _ :: _ | .map _ :: _ => rfl

/-- A call that begins anew refines no term. -/
theorem BeginsAnew.not_refines {c : Compiler} {items : List Node} (h : c.BeginsAnew items) (acc : Term) :
    ¬c.Refines acc items := by
  rintro ⟨name, raw, s, m, rfl, rfl, hmember⟩
  rcases h with ⟨first, rest, heq⟩ | ⟨name', raw', binding, heq, hbinding, hsource⟩
  · cases heq
  · cases heq
    have hfound := c.resolve_of_resolve_none hbinding (some (.schema s))
    rw [hmember] at hfound
    cases hfound
    rcases hsource with hsource | hsource <;> cases hsource

/-! ## Chains that head chains -/

/-- A sequence of its own around an invocation, and around that another, and so on: an invocation that compiles to the same. -/
theorem compile_enclosed {items : List Node} (inv : Node.isInvocation c.marker items = true) (depth : Nat) :
    ∃ outer, Node.enclosed (.seq items) depth = .seq outer ∧ Node.isInvocation c.marker outer = true ∧
      (c.compile (.seq outer)).result = (c.compile (.seq items)).result := by
  induction depth with
  | zero => exact ⟨items, rfl, inv, rfl⟩
  | succ depth ih =>
    obtain ⟨outer, houter, hinv, hresult⟩ := ih
    refine ⟨[.seq outer], by rw [Node.enclosed, houter], hinv, ?_⟩
    rw [c.result_compile_headed hinv, hresult]
    exact bind_pure _

/-- A chain that heads a sequence compiles as if it were written out there, whatever follows; and an invocation compiles to the same,
result or error, in any number of sequences of its own. -/
theorem compile_nested_chain :
    (∀ items more, (∃ first rest, items = .seq first :: rest) → Node.classify c.marker (.seq items) = .invocation →
      (c.compile (.seq (.seq items :: more))).result = (c.compile (.seq (items ++ more))).result) ∧
    ∀ items, Node.classify c.marker (.seq items) = .invocation → ∀ depth,
      (c.compile (Node.enclosed (.seq items) depth)).result = (c.compile (.seq items)).result := by
  constructor
  · rintro items more ⟨first, rest, rfl⟩ hclass
    have hinv := Node.isInvocation_of_classify hclass
    rw [c.result_compile_headed hinv, List.cons_append, c.result_compile_extended hinv]
  · intro items hclass depth
    obtain ⟨outer, houter, -, hresult⟩ := c.compile_enclosed (Node.isInvocation_of_classify hclass) depth
    rw [houter, hresult]

namespace NestingWitness

open SmallCase (compiler)

/-- A chain of two calls. -/
def integers : List Node :=
  [.seq [.str "do.number"], .seq [.str "do.integer"]]

/-- The schema that it describes. -/
def integerSchema : Schema :=
  (Schema.ofTag .number).ruleWithMessage .integer none

theorem compile_nested_integers :
    ((∃ first rest, integers = .seq first :: rest) ∧ Node.classify compiler.marker (.seq integers) = .invocation) ∧
    (compiler.compile (.seq [.seq integers, .seq [.str "do.required"], .null])).result =
      .ok (.list [.schema (integerSchema.required none), .literal .null]) ∧
    (compiler.compile (.seq [.seq [.seq integers]])).result = .ok (.schema integerSchema) := by
  have hled : ∃ first rest, integers = .seq first :: rest := ⟨_, _, rfl⟩
  have hclass : Node.classify compiler.marker (.seq integers) = .invocation := by decide
  refine ⟨⟨hled, hclass⟩, ?_, ?_⟩
  · exact compiler.compile_nested_chain.1 integers [.seq [.str "do.required"], .null] hled hclass
  · exact compiler.compile_nested_chain.2 integers hclass 2

end NestingWitness

/-! ## Chains that begin anew -/

/-- After a chain, a call that does not refine what the chain gives is made as if nothing were before it. -/
theorem result_compile_not_refining {first rest items more : List Node} {acc : Term}
    (inv : Node.isInvocation c.marker (.seq first :: rest) = true) (compiles : (c.compile (.seq (.seq first :: rest))).result = .ok acc)
    (h : ¬c.Refines acc items) :
    (c.compile (.seq (.seq first :: (rest ++ .seq items :: more)))).result =
      (c.invoke items none).result >>= more.foldlM c.afterElement := by
  rw [c.result_compile_extended inv, compiles]
  show (.seq items :: more).foldlM c.afterElement acc = _
  rw [List.foldlM_cons, ← c.result_invoke_of_not_refines h]
  rfl

/-- From a call that begins anew, a chain compiles to what it would compile to if it began there, result or error: nothing is left of
the elements before the call. So a call depends on what is before it only if it refines it: two chains that end alike from a call on
differ only if the call is one of a member of the schema before it, in one chain or in the other. -/
theorem compile_from_restart {first rest : List Node} {acc : Term}
    (chain : Node.classify c.marker (.seq (.seq first :: rest)) = .invocation)
    (compiles : (c.compile (.seq (.seq first :: rest))).result = .ok acc) :
    (∀ items more, Node.classify c.marker (.seq items) = .invocation → c.BeginsAnew items →
      (c.compile (.seq (.seq first :: (rest ++ .seq items :: more)))).result = (c.compile (.seq (.seq items :: more))).result) ∧
    ∀ first' rest' acc', Node.classify c.marker (.seq (.seq first' :: rest')) = .invocation →
      (c.compile (.seq (.seq first' :: rest'))).result = .ok acc' → ∀ items more,
        (c.compile (.seq (.seq first :: (rest ++ .seq items :: more)))).result ≠
            (c.compile (.seq (.seq first' :: (rest' ++ .seq items :: more)))).result →
          c.Refines acc items ∨ c.Refines acc' items := by
  have hinv := Node.isInvocation_of_classify chain
  constructor
  · intro items more hclass hanew
    have hitems := Node.isInvocation_of_classify hclass
    rw [c.result_compile_not_refining hinv compiles (hanew.not_refines acc), c.result_compile_headed hitems,
      c.compile_invocation hitems]
  · intro first' rest' acc' chain' compiles' items more hne
    have hinv' := Node.isInvocation_of_classify chain'
    by_contra hnot
    obtain ⟨h, h'⟩ := not_or.mp hnot
    apply hne
    rw [c.result_compile_not_refining hinv compiles h, c.result_compile_not_refining hinv' compiles' h']

namespace RestartWitness

/-- A compiler with a custom builder of words. -/
def compiler : Compiler :=
  ⟨"do.", Registry.empty.register "word" fun _ => .ok (.schema (.ofTag .string)), false, SmallCase.marker_ne⟩

/-- The schema of numbers that have to be there. -/
def numbers : Schema :=
  (Schema.ofTag .number).required none

/-- A chain that describes numbers, with further elements. -/
def afterNumbers (more : List Node) : Node :=
  .seq (.seq [.str "do.number"] :: ([.seq [.str "do.required"]] ++ more))

/-- A chain that describes texts, with further elements. -/
def afterTexts (more : List Node) : Node :=
  .seq (.seq [.str "do.string"] :: ([] ++ more))

theorem compile_word_after_numbers :
    (Node.classify compiler.marker (afterNumbers []) = .invocation ∧
      (compiler.compile (afterNumbers [])).result = .ok (.schema numbers)) ∧
    (compiler.BeginsAnew [.str "do.word"] ∧
      (compiler.compile (afterNumbers [.seq [.str "do.word"], .seq [.str "do.nullable"]])).result =
        .ok (.schema ((Schema.ofTag .string).nullable true))) ∧
    (compiler.compile (afterNumbers [.seq [.str "do.length"]])).result ≠
      (compiler.compile (afterTexts [.seq [.str "do.length"]])).result ∧
    (compiler.Refines (.schema numbers) [.str "do.length"] ∨ compiler.Refines (.schema (.ofTag .string)) [.str "do.length"]) := by
  have hchain : Node.classify compiler.marker (afterNumbers []) = .invocation := by decide
  have compiles : (compiler.compile (afterNumbers [])).result = .ok (.schema numbers) := rfl
  have hanew : compiler.BeginsAnew [.str "do.word"] := Or.inr ⟨"do.word", [], _, rfl, rfl, Or.inl rfl⟩
  have hrestart := compiler.compile_from_restart hchain compiles
  -- Numbers have no member of that name, and texts do.
  have hdiffer : (compiler.compile (afterNumbers [.seq [.str "do.length"]])).result ≠
      (compiler.compile (afterTexts [.seq [.str "do.length"]])).result := by
    have hnumbers : (compiler.compile (afterNumbers [.seq [.str "do.length"]])).result = .error (.unresolved "do.length") := rfl
    have htexts : (compiler.compile (afterTexts [.seq [.str "do.length"]])).result =
        .ok (.schema ((Schema.ofTag .string).ruleWithMessage (.exactLength 0) none)) := rfl
    rw [hnumbers, htexts]
    exact nofun
  refine ⟨⟨hchain, compiles⟩, ⟨hanew, ?_⟩, hdiffer, ?_⟩
  · exact hrestart.1 [.str "do.word"] [.seq [.str "do.nullable"]] (by decide) hanew
  · exact hrestart.2 [.str "do.string"] [] _ (by decide) rfl [.str "do.length"] [] hdiffer

end RestartWitness

end Compiler

end Schemata
