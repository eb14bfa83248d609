import Schemata.Proofs.Compiler.BareMapping
import Schemata.Proofs.Compiler.Continuation
import Schemata.Proofs.Library.Refinements

/-!
# Calls in any order

Without custom builders, a call of a member after a schema makes a refinement that depends on the call and on the kind of the schema
alone (`result_invoke_member`), and a chain of such calls makes these refinements one after another (`foldlM_calls`). Calls
no two of which change the same thing can therefore be made in any order: `compile_calls_perm`.
-/

namespace Schemata

/-- The kind of the schemas that a root builder begins. -/
def Root.tag? : Root → Option Tag
  | .mixed => some .mixed
  | .string => some .string
  | .number => some .number
  | .boolean => some .boolean
  | .object => some .object
  | .array => some .array
  | .ref => none

/-- A root builder of a kind gives a schema of the kind. -/
theorem Root.schema_of_build {r : Root} {tag : Tag} (hr : r.tag? = some tag) {args : Arguments} {t : Term}
    (h : r.build args = .ok t) : ∃ s, t = .schema s ∧ s.tag = tag := by
  have plain : ∀ tag : Tag, Root.plain tag args = .ok t → ∃ s, t = .schema s ∧ s.tag = tag := by
    intro tag h
    obtain ⟨-, -, h⟩ := bind_eq_ok_iff.mp h
    cases h
    exact ⟨_, rfl, Kind.tag_ofTag tag⟩
  cases r with
  | mixed | string | number | boolean =>
    cases hr
    exact plain _ h
  | object | array =>
    cases hr
    obtain ⟨-, -, h⟩ := bind_eq_ok_iff.mp h
    split at h
    · cases h
      exact ⟨_, rfl, rfl⟩
    · obtain ⟨part, -, h⟩ := bind_eq_ok_iff.mp h
      cases h
      exact ⟨_, rfl, rfl⟩
  | ref => cases hr

/-! ## What calls give -/

/-- A schema, a reference, or a list of at least two terms. -/
def Term.IsCalled : Term → Prop
  | .schema _ | .reference _ => True
  | .list items => 2 ≤ items.length
  | _ => False

namespace Compiler

variable (c : Compiler)

/-- A term after such a term makes such a list. -/
theorem isCalled_append (acc value : Term) (h : acc.IsCalled) : (append acc value).IsCalled := by
  cases acc with
  | list items => simpa [append, Term.IsCalled] using Nat.le_succ_of_le h
  | schema s => exact Nat.le_refl 2
  | reference r => exact Nat.le_refl 2
  | _ => exact h.elim

/-- Without custom builders, a call or a chain of calls gives such a term. -/
theorem isCalled_of_invoke (empty : c.registry = Registry.empty) (items : List Node) (receiver : Option Term) {t : Term}
    (h : (c.invoke items receiver).result = .ok t) : t.IsCalled := by
  refine c.of_invoke empty (fun t single => ?_) isCalled_append items receiver h
  rcases single with ⟨s, rfl⟩ | ⟨ref, rfl⟩ <;> trivial

/-! ## Calls of members -/

/-- The root builder that a name calls. -/
def rootCalled? (name : String) : Option Root :=
  (Text.afterFirst? c.marker name).bind Root.named?

/-- The member that a name calls after a schema of a kind. -/
def memberCalled? (tag : Tag) (name : String) : Option Member :=
  (Text.afterFirst? c.marker name).bind (Member.named? tag)

/-- What a call changes of a schema of a kind: for a shape, the fields that it names. -/
def callTargets (tag : Tag) (call : Call) : List Target :=
  match c.memberCalled? tag call.name, call.raw with
  | some .shape, [.map fields] => (Mapping.keys fields).map .field
  | some member, _ => member.target?.toList
  | none, _ => []

/-- The refinement that a call makes of schemas of a kind. -/
def callRefinement (tag : Tag) (call : Call) : Except CompileError Refinement :=
  match c.memberCalled? tag call.name with
  | some member => do
    let args ← c.argumentsOf (.member member (.ofTag tag)) call.raw
    (member.refinement tag ⟨member.name, args⟩).mapError .build
  | none => .error (.unresolved call.name)

variable {c} {tag : Tag} {call : Call}

/-- The arguments of a member are compiled without a look at the schema. -/
theorem argumentsOf_member (member : Member) (s s' : Schema) (raw : List Node) :
    c.argumentsOf (.member member s) raw = c.argumentsOf (.member member s') raw := by
  have hpattern : (Binding.member member s).takesPattern = (Binding.member member s').takesPattern := by cases member <;> rfl
  unfold argumentsOf
  rw [hpattern]

/-- One step: a call of a member refines the schema before it. -/
theorem result_invoke_member (empty : c.registry = Registry.empty) (called : (c.memberCalled? tag call.name).isSome = true)
    {s : Schema} (hs : s.tag = tag) :
    (c.invoke (.str call.name :: call.raw) (some (.schema s))).result =
      (fun r => Term.schema (r.apply s)) <$> c.callRefinement tag call := by
  subst hs
  obtain ⟨member, hm⟩ := Option.isSome_iff_exists.mp called
  have hresolve : c.resolve (.str call.name) (some (.schema s)) = .ok (.member member s) := by
    obtain ⟨bare, hbare, hnamed⟩ := Option.bind_eq_some_iff.mp hm
    rw [resolve_str, c.lookup?_of_empty empty, hbare, Option.bind_some, memberOf?_eq_some_iff.mpr ⟨s, member, rfl, hnamed, rfl⟩]
    rfl
  rw [result_invoke_str, hresolve, callRefinement, hm]
  show (c.argumentsOf (.member member s) call.raw >>= fun args =>
    ((member.build s ⟨member.name, args⟩).map Term.schema).mapError .build) = _ <$> (c.argumentsOf _ call.raw >>= _)
  rw [argumentsOf_member member s (.ofTag s.tag), map_bind]
  congr 1
  funext args
  rw [Member.build_eq]
  cases member.refinement s.tag ⟨member.name, args⟩ <;> rfl

/-- A refinement that a call makes is one of schemas of the kind. -/
theorem fits_of_callRefinement {r : Refinement} (h : c.callRefinement tag call = .ok r) : r.Fits tag := by
  unfold callRefinement at h
  split at h
  · rename_i member hm
    obtain ⟨bare, -, hnamed⟩ := Option.bind_eq_some_iff.mp hm
    obtain ⟨args, -, h⟩ := bind_eq_ok_iff.mp h
    exact (Member.makes_of_refinement (mapError_eq_ok_iff.mp h)).fits (Member.exposedBy_of_named? hnamed).1
  · cases h

/-- The whole: a run of calls of members makes their refinements one after another. -/
theorem foldlM_calls (empty : c.registry = Registry.empty) {calls : List Call}
    (called : ∀ call ∈ calls, (c.memberCalled? tag call.name).isSome = true) {s : Schema} (hs : s.tag = tag) :
    (calls.map Call.node).foldlM c.afterElement (.schema s) =
      (fun rs => Term.schema (rs.foldl Refinement.apply s)) <$> calls.mapM (c.callRefinement tag) := by
  induction calls generalizing s with
  | nil => rfl
  | cons call rest ih =>
    have hstep : c.afterElement (.schema s) call.node = (fun r => Term.schema (r.apply s)) <$> c.callRefinement tag call :=
      result_invoke_member empty (called call List.mem_cons_self) hs
    rw [List.map_cons, List.foldlM_cons, hstep, List.mapM_cons, bind_map_left, map_bind]
    cases hr : c.callRefinement tag call with
    | error e => rfl
    | ok r =>
      have htag : (r.apply s).tag = tag := by
        rw [Refinement.tag_apply (hs ▸ fits_of_callRefinement hr), hs]
      show List.foldlM c.afterElement (.schema (r.apply s)) _ = _ <$> (rest.mapM _ >>= fun rs => pure (r :: rs))
      rw [ih (fun call h => called call (List.mem_cons_of_mem _ h)) htag, map_bind, map_eq_pure_bind]
      rfl

/-! ## What calls change -/

/-- Without custom builders, only a mapping compiles to a shape. -/
theorem map_of_compile_shape (empty : c.registry = Registry.empty) {n : Node} {terms : List (String × Term)}
    (h : (c.compile n).result = .ok (.shape terms)) : ∃ fields, n = .map fields ∧ c.FieldsCompile fields terms := by
  cases n with
  | seq items =>
    by_cases hinv : Node.isInvocation c.marker items = true
    · rw [c.compile_invocation hinv] at h
      exact (c.isCalled_of_invoke empty items none h).elim
    · rw [compile, if_neg hinv, Traced.result_bind] at h
      obtain ⟨items, -, h⟩ := bind_eq_ok_iff.mp h
      cases h
  | map fields =>
    rw [result_compile_map] at h
    obtain ⟨terms', hterms, h⟩ := map_eq_ok_iff.mp h
    cases h
    exact ⟨fields, rfl, (c.compileFields_eq_ok_iff fields terms).mp hterms⟩
  | _ => cases h

/-- Without custom builders, a shape is passed alone only where a mapping is written alone. -/
theorem map_of_argumentsOf (empty : c.registry = Registry.empty) {binding : Binding} (noPattern : binding.takesPattern = false)
    {raw : List Node} {terms : List (String × Term)} (h : c.argumentsOf binding raw = .ok [.shape terms]) :
    ∃ fields, raw = [.map fields] ∧ c.FieldsCompile fields terms := by
  unfold argumentsOf at h
  rw [if_neg (by simp [noPattern])] at h
  obtain ⟨t, ht, hpassed⟩ := map_eq_ok_iff.mp h
  have hcases : t = .shape terms ∨ t = .list [.shape terms] := by
    unfold passed at hpassed
    split at hpassed
    · split at hpassed
      · cases hpassed
      · exact Or.inr (congrArg Term.list hpassed)
    · exact Or.inl (List.singleton_inj.mp hpassed)
  by_cases hinv : Node.isInvocation c.marker raw = true
  · -- A call gives neither.
    rw [if_pos hinv] at ht
    have hcalled := c.isCalled_of_invoke empty raw none ht
    rcases hcases with rfl | rfl
    · exact hcalled.elim
    · exact absurd hcalled (Nat.not_succ_le_self 1)
  · rw [if_neg hinv] at ht
    obtain ⟨items, hitems, rfl⟩ := map_eq_ok_iff.mp ht
    rcases hcases with heq | heq
    · cases heq
    · cases heq
      obtain ⟨n, more, hn, hmore, rfl⟩ := List.forall₂_cons_right_iff.mp (mapM_eq_ok_iff.mp hitems)
      cases hmore
      obtain ⟨fields, rfl, hfields⟩ := map_of_compile_shape empty hn
      exact ⟨fields, rfl, hfields⟩

/-- The refinement of a call changes what the call does. -/
theorem targets_of_callRefinement (empty : c.registry = Registry.empty) {r : Refinement}
    (h : c.callRefinement tag call = .ok r) : r.targets = c.callTargets tag call := by
  unfold callRefinement at h
  split at h
  · rename_i member hm
    obtain ⟨args, hargs, h⟩ := bind_eq_ok_iff.mp h
    have hr := mapError_eq_ok_iff.mp h
    by_cases hs : member = .shape
    · subst hs
      obtain ⟨terms, schemas, hitems, hdescribe, rfl⟩ := Member.shape_of_refinement hr
      subst hitems
      obtain ⟨fields, hraw, hfields⟩ := map_of_argumentsOf empty rfl hargs
      unfold callTargets
      rw [hm, hraw]
      exact congrArg (List.map Target.field) (c.keys_eq_of_describe hfields hdescribe)
    · rw [(Member.makes_of_refinement hr).targets hs, callTargets, hm]
      split
      · rename_i hmember _
        cases hmember
        exact (hs rfl).elim
      · rename_i hmember _
        cases hmember
        rfl
      · rename_i hmember
        cases hmember
  · cases h

/-! ## Calls in any order -/

/-- A call of a root builder of a kind gives a schema of the kind. -/
theorem schema_of_invoke_root (empty : c.registry = Registry.empty) {first : Call}
    (root : (c.rootCalled? first.name).bind Root.tag? = some tag) {t : Term}
    (h : (c.invoke (.str first.name :: first.raw) none).result = .ok t) : ∃ s, t = .schema s ∧ s.tag = tag := by
  obtain ⟨r, hr, htag⟩ := Option.bind_eq_some_iff.mp root
  obtain ⟨bare, hbare, hnamed⟩ := Option.bind_eq_some_iff.mp hr
  have hresolve : c.resolve (.str first.name) none = .ok (.root r) := by
    rw [resolve_str, c.lookup?_of_empty empty, hbare, Option.bind_some, hnamed]
    rfl
  rw [result_invoke_str, hresolve] at h
  obtain ⟨binding, hbinding, h⟩ := bind_eq_ok_iff.mp h
  cases hbinding
  obtain ⟨args, -, h⟩ := bind_eq_ok_iff.mp h
  exact r.schema_of_build htag (mapError_eq_ok_iff.mp h)

/-- The refinements of calls, no two of which change the same thing, make the same schema in any order, but for the order of its
rules. -/
theorem sameButOrder_of_calls (empty : c.registry = Registry.empty) {calls calls' : List Call} (perm : calls.Perm calls')
    (apart : calls.Pairwise fun a b => ∀ target ∈ c.callTargets tag a, target ∉ c.callTargets tag b) {rs : List Refinement}
    (hrs : calls.mapM (c.callRefinement tag) = .ok rs) {s : Schema} (hs : s.tag = tag) :
    ∃ rs', calls'.mapM (c.callRefinement tag) = .ok rs' ∧
      (rs.foldl Refinement.apply s).SameButOrder (rs'.foldl Refinement.apply s) := by
  obtain ⟨rs', hrs', hperm⟩ := mapM_perm perm hrs
  have hmade := mapM_eq_ok_iff.mp hrs
  have fits : ∀ r ∈ rs, r.Fits s.tag := by
    rw [hs]
    exact forall_of_forall₂ hmade fun call _ r => fits_of_callRefinement
  have htargets : rs.map Refinement.targets = calls.map (c.callTargets tag) := by
    rw [← List.forall₂_eq_eq_eq, List.forall₂_map_left_iff, List.forall₂_map_right_iff]
    exact hmade.flip.imp fun r call h => targets_of_callRefinement empty h
  have hapart : rs.Pairwise Refinement.Apart := by
    have hdisjoint : (calls.map (c.callTargets tag)).Pairwise fun a b => ∀ target ∈ a, target ∉ b := List.pairwise_map.mpr apart
    rw [← htargets, List.pairwise_map] at hdisjoint
    exact hdisjoint
  exact ⟨rs', hrs', Refinement.foldl_apply_perm hperm fits hapart⟩

/-- Calls of members, no two of which change the same thing, can be made in any order after a call of a root builder: either neither
chain compiles, or both describe schemas that accept the same values and absences, whatever object is around them, and whose
descriptions differ in the order of the tests at most. -/
theorem compile_calls_perm (empty : c.registry = Registry.empty) {first : Call} {calls calls' : List Call}
    (root : (c.rootCalled? first.name).bind Root.tag? = some tag)
    (members : ∀ call ∈ calls, (c.memberCalled? tag call.name).isSome = true)
    (apart : calls.Pairwise fun a b => ∀ target ∈ c.callTargets tag a, target ∉ c.callTargets tag b) (perm : calls.Perm calls') :
    (∃ e e', (c.compile (.seq ((first :: calls).map Call.node))).result = .error e ∧
        (c.compile (.seq ((first :: calls').map Call.node))).result = .error e') ∨
      ∃ s s', (c.compile (.seq ((first :: calls).map Call.node))).result = .ok (.schema s) ∧
        (c.compile (.seq ((first :: calls').map Call.node))).result = .ok (.schema s') ∧
        (∀ v parent, s.violation? v parent = none ↔ s'.violation? v parent = none) ∧ (∀ v, s.isValid v = s'.isValid v) ∧
        DescribedAlike s.describe s'.describe := by
  have marked : Text.occursIn c.marker first.name = true := by
    obtain ⟨r, hr, -⟩ := Option.bind_eq_some_iff.mp root
    obtain ⟨bare, hbare, -⟩ := Option.bind_eq_some_iff.mp hr
    rw [← Text.map_snd_cutAt?] at hbare
    exact Option.isSome_map.symm.trans (Option.isSome_of_mem hbare)
  have members' : ∀ call ∈ calls', (c.memberCalled? tag call.name).isSome = true := fun call h =>
    members call (perm.mem_iff.mpr h)
  rw [c.result_compile_chain first calls marked, c.result_compile_chain first calls' marked]
  cases hfirst : (c.invoke (.str first.name :: first.raw) none).result with
  | error e => exact Or.inl ⟨e, e, rfl, rfl⟩
  | ok t =>
    obtain ⟨s, rfl, hs⟩ := schema_of_invoke_root empty root hfirst
    show (∃ e e', List.foldlM c.afterElement (.schema s) _ = _ ∧ List.foldlM c.afterElement (.schema s) _ = _) ∨
      ∃ t t', List.foldlM c.afterElement (.schema s) _ = _ ∧ List.foldlM c.afterElement (.schema s) _ = _ ∧ _
    rw [foldlM_calls empty members hs, foldlM_calls empty members' hs]
    cases hrs : calls.mapM (c.callRefinement tag) with
    | ok rs =>
      obtain ⟨rs', hrs', same⟩ := sameButOrder_of_calls empty perm apart hrs hs
      rw [hrs']
      refine Or.inr ⟨_, _, rfl, rfl, same.violation?_eq_none_iff, fun v => ?_, same.describedAlike⟩
      rw [Bool.eq_iff_iff, Schema.isValid, Schema.isValid, Option.isNone_iff_eq_none, Option.isNone_iff_eq_none]
      exact same.violation?_eq_none_iff v none
    | error e =>
      cases hrs' : calls'.mapM (c.callRefinement tag) with
      | error e' => exact Or.inl ⟨e, e', rfl, rfl⟩
      | ok rs' =>
        obtain ⟨rs, h, -⟩ := mapM_perm perm.symm hrs'
        cases hrs.symm.trans h

namespace OrderWitness

open SmallCase (compiler)

/-- Texts. -/
def text : Call := ⟨"do.string", []⟩

/-- Two rules, with presence and a set between them. -/
def refinements : List Call :=
  [⟨"do.email", [.str "no address"]⟩, ⟨"do.required", [.str "missing"]⟩,
    ⟨"do.oneOf", [.seq [.str "a@b.c", .seq [.str "do.ref", .str "other"]]]⟩, ⟨"do.lowercase", []⟩]

/-- Objects. -/
def object : Call := ⟨"do.object", []⟩

/-- Two shapes with different keys. -/
def shapes : List Call :=
  [⟨"do.shape", [.map [("b", .seq [.seq [.str "do.string"]])]]⟩, ⟨"do.shape", [.map [("a", .seq [.seq [.str "do.number"]])]]⟩]

theorem compile_reversed :
    (∃ s s', (compiler.compile (.seq ((text :: refinements).map Call.node))).result = .ok (.schema s) ∧
      (compiler.compile (.seq ((text :: refinements.reverse).map Call.node))).result = .ok (.schema s') ∧
      s.rules.length = 2 ∧ (∀ v parent, s.violation? v parent = none ↔ s'.violation? v parent = none) ∧
      DescribedAlike s.describe s'.describe) ∧
    ∃ s s', (compiler.compile (.seq ((object :: shapes).map Call.node))).result = .ok (.schema s) ∧
      (compiler.compile (.seq ((object :: shapes.reverse).map Call.node))).result = .ok (.schema s') ∧
      s.fields?.map Mapping.keys = some ["a", "b"] ∧ (∀ v parent, s.violation? v parent = none ↔ s'.violation? v parent = none) ∧
      DescribedAlike s.describe s'.describe := by
  have membersText : ∀ call ∈ refinements, (compiler.memberCalled? .string call.name).isSome = true := by decide
  have membersObject : ∀ call ∈ shapes, (compiler.memberCalled? .object call.name).isSome = true := by decide
  have apartText : refinements.Pairwise fun a b => ∀ target ∈ compiler.callTargets .string a,
      target ∉ compiler.callTargets .string b := by
    decide
  have apartObject : shapes.Pairwise fun a b => ∀ target ∈ compiler.callTargets .object a,
      target ∉ compiler.callTargets .object b := by
    decide
  have rootText : (compiler.rootCalled? text.name).bind Root.tag? = some .string := by decide
  have rootObject : (compiler.rootCalled? object.name).bind Root.tag? = some .object := by decide
  constructor
  · rcases compile_calls_perm rfl rootText membersText apartText refinements.reverse_perm.symm with
      ⟨e, e', h, -⟩ | ⟨s, s', hs, hs', haccepts, -, hdescribe⟩
    · cases h
    · refine ⟨s, s', hs, hs', ?_, haccepts, hdescribe⟩
      cases hs
      rfl
  · rcases compile_calls_perm rfl rootObject membersObject apartObject shapes.reverse_perm.symm with
      ⟨e, e', h, -⟩ | ⟨s, s', hs, hs', haccepts, -, hdescribe⟩
    · cases h
    · refine ⟨s, s', hs, hs', ?_, haccepts, hdescribe⟩
      cases hs
      rfl

end OrderWitness

end Compiler

end Schemata
