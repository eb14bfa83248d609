import Schemata.Proofs.Compiler.Results
import Schemata.Proofs.Outcome

/-!
# Invariants of compiling

A condition on terms and one on errors are kept by every part of the compiler if each single step keeps them: naming a builder,
calling it, going on with a shape, and putting terms together (`Compiler.Invariant`). The induction over descriptions is made here
once (`Invariant.all_meet`).
-/

namespace Schemata

namespace Traced

variable {α β : Type} {fails : CompileError → Prop}

/-- What a compilation gives meets a condition, and so does its error when it fails. -/
def Meets (gives : α → Prop) (fails : CompileError → Prop) (x : Traced α) : Prop :=
  (∀ a, x.result = .ok a → gives a) ∧ ∀ e, x.result = .error e → fails e

theorem meets_pure {gives : α → Prop} {a : α} (h : gives a) : (pure a : Traced α).Meets gives fails := by
  refine ⟨?_, nofun⟩
  rintro b ⟨⟩
  exact h

theorem meets_fail (gives : α → Prop) {e : CompileError} (h : fails e) : (fail e : Traced α).Meets gives fails := by
  refine ⟨nofun, ?_⟩
  rintro e' ⟨⟩
  exact h

theorem Meets.bind {p : α → Prop} {q : β → Prop} {x : Traced α} {f : α → Traced β} (hx : x.Meets p fails)
    (hf : ∀ a, p a → (f a).Meets q fails) : (x >>= f).Meets q fails := by
  constructor
  · intro b hb
    rw [result_bind] at hb
    obtain ⟨a, ha, hb⟩ := bind_eq_ok_iff.mp hb
    exact (hf a (hx.1 a ha)).1 b hb
  · intro e he
    rw [result_bind] at he
    rcases bind_eq_error_iff.mp he with he | ⟨a, ha, he⟩
    · exact hx.2 e he
    · exact (hf a (hx.1 a ha)).2 e he

theorem Meets.map {p : α → Prop} {q : β → Prop} {x : Traced α} {f : α → β} (hx : x.Meets p fails)
    (hf : ∀ a, p a → q (f a)) : (f <$> x).Meets q fails := by
  constructor
  · intro b hb
    rw [result_map] at hb
    obtain ⟨a, ha, rfl⟩ := map_eq_ok_iff.mp hb
    exact hf a (hx.1 a ha)
  · intro e he
    rw [result_map] at he
    exact hx.2 e (map_eq_error_iff.mp he)

/-- Recording an event changes nothing. -/
theorem Meets.record_bind {p : β → Prop} {event : Event} {f : Unit → Traced β} (hf : (f ()).Meets p fails) :
    (Traced.record event >>= f).Meets p fails := by
  unfold Meets
  rw [result_bind]
  exact hf

theorem Meets.recordIf_bind {p : β → Prop} {condition : Bool} {event : Event} {f : Unit → Traced β}
    (hf : (f ()).Meets p fails) : (Traced.recordIf condition event >>= f).Meets p fails := by
  unfold Meets
  rw [result_bind, result_recordIf]
  exact hf

end Traced

namespace Compiler

open Traced

/-- A condition on terms and one on errors that each single step of a compiler keeps. -/
structure Invariant (c : Compiler) (gives : Term → Prop) (fails : CompileError → Prop) : Prop where
  literal : ∀ n : Node, n.IsScalar → gives (.literal n.toJson)
  pattern : ∀ p, gives (.pattern p)
  list : ∀ items, gives (.list items) ↔ ∀ t ∈ items, gives t
  shape : ∀ fields, (∀ field ∈ fields, gives field.2) → gives (.shape fields)
  nothing : fails (.unresolved "[]")
  lead : ∀ raw lead, leadingPattern? raw = some lead → (ofExcept lead).Meets (fun _ => True) fails
  resolve : ∀ name receiver, (∀ t ∈ receiver, gives t) →
    (ofExcept (c.resolve name receiver)).Meets
      (fun binding => ∀ args, (∀ t ∈ args, gives t) → (ofExcept ((binding.call args).mapError .build)).Meets gives fails) fails
  continueWithShape : ∀ acc, gives acc → (c.continueWithShape acc).Meets gives fails

namespace Invariant

variable {c : Compiler} {gives : Term → Prop} {fails : CompileError → Prop} (keeps : c.Invariant gives fails)
include keeps

/-- What is passed of a term meets its condition. -/
theorem passed {t : Term} (h : gives t) : ∀ arg ∈ Compiler.passed t, gives arg := by
  unfold Compiler.passed
  split
  · split
    · exact nofun
    · exact (keeps.list _).mp h
  · intro arg harg
    rw [List.mem_singleton.mp harg]
    exact h

/-- A term after another makes a list that meets it. -/
theorem append {t value : Term} (ht : gives t) (hv : gives value) : gives (Compiler.append t value) := by
  unfold Compiler.append
  split
  · refine (keeps.list _).mpr fun item hm => ?_
    rcases List.mem_append.mp hm with hm | hm
    · exact (keeps.list _).mp ht item hm
    · rw [List.mem_singleton.mp hm]
      exact hv
  · refine (keeps.list _).mpr fun item hm => ?_
    rcases List.mem_cons.mp hm with rfl | hm
    · exact ht
    · rw [List.mem_singleton.mp hm]
      exact hv

/-- Every part of a description meets the conditions, if what came before it did. -/
theorem all_meet :
    (∀ n, (c.compile n).Meets gives fails) ∧
      (∀ fields, (c.compileFields fields).Meets (fun terms => ∀ field ∈ terms, gives field.2) fails) ∧
      (∀ items, (c.compileItems items).Meets (fun terms => ∀ t ∈ terms, gives t) fails) ∧
      (∀ items receiver, (∀ t ∈ receiver, gives t) → (c.invoke items receiver).Meets gives fails) ∧
      (∀ items, (c.compileRest items).Meets (fun terms => ∀ t ∈ terms, gives t) fails) ∧
      ∀ elements step acc, gives acc → (c.chain elements step acc).Meets gives fails := by
  have noTerm : ∀ t ∈ (none : Option Term), gives t := by simp
  refine compile.mutual_induct c _ _ _ _ _ _ ?null ?boolean ?number ?text ?pattern ?invocation ?list ?mapping ?noItems ?item ?nothing
    ?chain ?call ?noRest ?rest ?chainEnd ?chainCall ?chainShape ?chainText ?chainOther ?noFields ?field
  case null => exact meets_pure (keeps.literal .null trivial)
  case boolean => exact fun b => meets_pure (keeps.literal (.bool b) trivial)
  case number => exact fun x => meets_pure (keeps.literal (.num x) trivial)
  case text => exact fun s => meets_pure (keeps.literal (.str s) trivial)
  case pattern => exact fun p => meets_pure (keeps.pattern p)
  case invocation =>
    intro items h ih
    rw [c.compile_invocation h]
    exact ih noTerm
  case list =>
    intro items h ih
    rw [compile, if_neg h]
    exact ih.bind fun terms hterms => meets_pure ((keeps.list _).mpr hterms)
  case mapping =>
    intro fields ih
    rw [compile]
    exact ih.bind fun terms hterms => meets_pure (keeps.shape _ hterms)
  -- Items, fields, and the items after the first.
  case noItems => exact meets_pure (List.forall_mem_nil _)
  case item =>
    intro n rest ihHead ihRest
    rw [compileItems]
    exact ihHead.bind fun t ht => ihRest.bind fun terms hterms => meets_pure (List.forall_mem_cons.mpr ⟨ht, hterms⟩)
  -- Calls: nothing, a chain, or a name with its arguments.
  case nothing => exact fun _ _ => meets_fail _ keeps.nothing
  case chain =>
    intro receiver first rest ihFirst ihRest _
    rw [invoke]
    exact (ihFirst noTerm).bind ihRest
  case call =>
    intro receiver name raw hname ihRest ihCall ihItems hr
    rw [c.invoke_name hname]
    refine (keeps.resolve name receiver hr).bind fun binding hcall => Meets.recordIf_bind (Meets.bind ?_ hcall)
    rw [compileArguments]
    split
    · rename_i lead hlead
      have hl : leadingPattern? raw = some lead := by
        split at hlead
        · exact hlead
        · cases hlead
      refine (keeps.lead raw lead hl).bind fun p _ => ?_
      exact ihRest.map fun terms hterms => List.forall_mem_cons.mpr ⟨keeps.pattern p, hterms⟩
    · refine Meets.map (p := gives) ?_ fun t => keeps.passed
      split
      · exact ihCall noTerm
      · exact ihItems.map fun terms => (keeps.list terms).mpr
  case noRest => exact meets_pure (List.forall_mem_nil _)
  case rest =>
    intro n rest ih
    rw [compileRest]
    exact ih
  -- Chains, by the element that comes next.
  case chainEnd => exact fun _ acc hacc => meets_pure hacc
  case chainCall =>
    intro step acc items rest ihCall ihRest hacc
    rw [chain]
    refine (ihCall fun t ht => ?_).bind fun acc hacc => Meets.recordIf_bind (ihRest acc hacc)
    cases ht
    exact hacc
  case chainShape =>
    intro step acc rest ihRest hacc
    rw [chain, if_pos rfl]
    exact (keeps.continueWithShape acc hacc).bind fun acc hacc => Meets.recordIf_bind (ihRest acc hacc)
  case chainText =>
    intro step acc s rest hs ihRest hacc
    rw [chain, if_neg hs]
    have happended := keeps.append hacc (keeps.literal (.str s) trivial)
    exact (meets_pure happended).bind fun acc hacc => Meets.recordIf_bind (ihRest acc hacc)
  case chainOther =>
    intro step acc n rest hseq hstr ih ihRest hacc
    rw [c.chain_other hseq hstr]
    exact ih.bind fun t ht => Meets.recordIf_bind (ihRest t (keeps.append hacc ht))
  case noFields => exact meets_pure (List.forall_mem_nil _)
  case field =>
    intro key n rest ihHead ihRest
    rw [compileFields]
    exact ihHead.bind fun t ht => ihRest.bind fun terms hterms => meets_pure (List.forall_mem_cons.mpr ⟨ht, hterms⟩)

end Invariant

end Compiler

end Schemata
