import Schemata.CommandLine.Session
import Schemata.Proofs.Compiler.Termination

/-!
# Diagnostics

With diagnostics on, a compilation records also what the names of builders stand for and what the steps of chains give. Nothing else
depends on them: without these events, the compilation with diagnostics on is the one with them off, events in order, whether it gives
a term or fails on the way (`Compiler.compile_diagnostics`).
-/

namespace Schemata

/-! ## Leaving events out -/

namespace Traced

variable {α β : Type}

/-- A compilation without the events of diagnostics. -/
def undiagnosed (x : Traced α) : Traced α :=
  ⟨x.events.filter fun e => !e.isDiagnostic, x.result⟩

@[simp] theorem undiagnosed_ofExcept (result : Except CompileError α) : (ofExcept result).undiagnosed = ofExcept result := rfl

/-- What is left of two parts is what is left of each, in order. -/
theorem undiagnosed_bind (x : Traced α) (f : α → Traced β) :
    (x >>= f).undiagnosed = x.undiagnosed >>= fun a => (f a).undiagnosed := by
  obtain ⟨events, result⟩ := x
  cases result with
  | ok a => exact congrArg (Traced.mk · (f a).result) (List.filter_append _ _)
  | error e => rfl

end Traced

namespace Compiler

namespace Work

variable {α β : Type}

/-- Work that records no events of diagnostics. -/
def undiagnosed : Work α → Work α
  | .ends result => .ends result
  | .records e next => if e.isDiagnostic then next.undiagnosed else .records e next.undiagnosed
  | .builds b args next => .builds b args fun t => (next t).undiagnosed
  | .calls t next => .calls t fun a => (next a).undiagnosed

@[simp] theorem undiagnosed_pure (a : α) : (pure a : Work α).undiagnosed = pure a := rfl

@[simp] theorem undiagnosed_ends (result : Except CompileError α) : (ends result).undiagnosed = ends result := rfl

@[simp] theorem undiagnosed_build (b : Binding) (args : List Term) : (build b args).undiagnosed = build b args := rfl

@[simp] theorem undiagnosed_bind (w : Work α) (f : α → Work β) :
    (w >>= f).undiagnosed = w.undiagnosed >>= fun a => (f a).undiagnosed := by
  induction w with
  | ends result => cases result <;> rfl
  | records e next ih =>
    show (if e.isDiagnostic then (next >>= f).undiagnosed else records e (next >>= f).undiagnosed) =
      (if e.isDiagnostic then next.undiagnosed else records e next.undiagnosed) >>= _
    rw [ih]
    split <;> rfl
  | builds b args next ih => exact congrArg (builds b args) (funext ih)
  | calls t next ih => exact congrArg (calls t) (funext ih)

@[simp] theorem undiagnosed_map (f : α → β) (w : Work α) : (f <$> w).undiagnosed = f <$> w.undiagnosed := by
  rw [map_eq_pure_bind, map_eq_pure_bind, undiagnosed_bind]
  rfl

/-- Where no item's work records events of diagnostics, that of all items does not. -/
theorem undiagnosed_mapM {f : α → Work β} (h : ∀ a, (f a).undiagnosed = f a) (items : List α) :
    (items.mapM f).undiagnosed = items.mapM f := by
  induction items with
  | nil => rfl
  | cons a rest ih => simp only [List.mapM_cons, undiagnosed_bind, h, ih, undiagnosed_pure]

/-- Nothing is left of an event that is recorded for diagnostics. -/
theorem undiagnosed_recordIf {e : Event} (h : e.isDiagnostic = true) (condition : Bool) :
    (recordIf condition e).undiagnosed = pure () := by
  cases condition
  · rfl
  · exact if_pos h

/-- What work without its events of diagnostics comes to is what the work comes to, without those events. -/
theorem answered_undiagnosed (answer : (t : Task) → Traced t.Answer) (w : Work α) :
    w.undiagnosed.answered (fun t => (answer t).undiagnosed) = (w.answered answer).undiagnosed := by
  induction w with
  | ends result => rfl
  | records e next ih =>
    rw [undiagnosed, answered, Traced.undiagnosed_bind, ← ih]
    cases hd : e.isDiagnostic with
    | true =>
      have hrecord : (Traced.record e).undiagnosed = pure () := by simp [Traced.undiagnosed, Traced.record, hd, pure]
      rw [hrecord, pure_bind, if_pos rfl]
    | false =>
      have hrecord : (Traced.record e).undiagnosed = Traced.record e := by simp [Traced.undiagnosed, Traced.record, hd]
      rw [hrecord, if_neg Bool.false_ne_true]
      rfl
  | builds b args next ih =>
    rw [undiagnosed, answered, answered, Traced.undiagnosed_bind, Traced.undiagnosed_ofExcept]
    exact bind_congr ih
  | calls t next ih =>
    rw [undiagnosed, answered, answered, Traced.undiagnosed_bind]
    exact bind_congr ih

end Work

/-! ## What depends on diagnostics -/

/-- A compiler with diagnostics on or off. -/
def withDiagnostics (c : Compiler) (on : Bool) : Compiler :=
  { c with diagnostics := on }

variable {c : Compiler}

open Work
open CommandLine (eventRecord)

/-- A chain that goes on with a shape records nothing of diagnostics. -/
theorem undiagnosed_shaped (acc : Term) : (c.shaped acc).undiagnosed = c.shaped acc := by
  unfold shaped
  split
  · rfl
  · split <;> rfl
  · rfl
  · rfl

theorem undiagnosed_extended (acc : Term) (n : Node) : (c.extended acc n).undiagnosed = c.extended acc n := by
  unfold extended
  split
  · rfl
  · split
    · exact undiagnosed_shaped acc
    · rfl
  · rfl

/-- The steps of a chain are recorded only for diagnostics. -/
theorem undiagnosed_followed (elements : List Node) (step : Nat) (acc : Term) :
    (c.followed elements step acc).undiagnosed = (c.withDiagnostics false).followed elements step acc := by
  induction elements generalizing step acc with
  | nil => rfl
  | cons n rest ih =>
    rw [followed, followed, undiagnosed_bind, undiagnosed_extended]
    refine bind_congr fun acc => ?_
    rw [undiagnosed_bind, undiagnosed_recordIf rfl]
    exact ih (step + 1) acc

/-- Without its events of diagnostics, the work of a procedure is the work with diagnostics off. -/
theorem undiagnosed_work (t : Task) : (c.work t).undiagnosed = (c.withDiagnostics false).work t := by
  cases t with
  | node n => cases n <;> rfl
  | shape fields =>
    rw [work, work, undiagnosed_map, undiagnosed_mapM fun _ => rfl]
  | sequence items =>
    rw [work, work]
    show Work.undiagnosed (if Node.isInvocation c.marker items then _ else _) = if Node.isInvocation c.marker items then _ else _
    split
    · rfl
    · rw [undiagnosed_map, undiagnosed_mapM fun _ => rfl]
  | chain items =>
    cases items with
    | nil => rfl
    | cons head rest =>
      cases head with
      | seq first =>
        rw [work, work, undiagnosed_bind]
        exact bind_congr fun acc => undiagnosed_followed rest 1 acc
      | _ => rfl
  | invocation items receiver =>
    have hnamed : ∀ {name : Node}, (∀ items, name ≠ .seq items) → ∀ raw,
        (c.work (.invocation (name :: raw) receiver)).undiagnosed =
          (c.withDiagnostics false).work (.invocation (name :: raw) receiver) := by
      intro name hname raw
      rw [c.work_name hname, (c.withDiagnostics false).work_name hname]
      have hcall : ∀ raw, (call (.arguments raw)).undiagnosed = call (.arguments raw) := fun _ => rfl
      have hresolved : ∀ (condition : Bool) (s : String) (source : Source) (builder : String) (count : Nat),
          (recordIf condition (.resolved s source builder count)).undiagnosed = pure () :=
        fun condition _ _ _ _ => undiagnosed_recordIf rfl condition
      simp only [undiagnosed_bind, undiagnosed_ends, undiagnosed_build, hcall, hresolved]
      rfl
    cases items with
    | nil => rfl
    | cons head rest =>
      cases head with
      | seq first => rfl
      | _ => exact hnamed (by simp) rest
  | arguments raw => rfl

/-- So it is with whole calls. -/
theorem undiagnosed_outcome (t : Task) : (c.outcome t).undiagnosed = (c.withDiagnostics false).outcome t := by
  have hsolves : ∀ t, True → ((c.withDiagnostics false).work t).answered (fun t => (c.outcome t).undiagnosed) =
      (c.outcome t).undiagnosed := by
    intro t _
    rw [← undiagnosed_work, answered_undiagnosed, answered_work]
  exact eq_outcome (fun _ _ _ _ => trivial) hsolves t trivial

theorem undiagnosed_compile (n : Node) : (c.compile n).undiagnosed = (c.withDiagnostics false).compile n :=
  undiagnosed_outcome (.node n)

theorem undiagnosed_transform (n : Node) : (c.transform n).undiagnosed = (c.withDiagnostics false).transform n := by
  cases n <;> exact congrArg (Traced.mapError _) (undiagnosed_compile _)

/-- The messages of the events that are recorded for diagnostics. -/
def diagnosticMessages : List String :=
  ["resolved invocation", "chain step"]

/-- The events of diagnostics are those with these messages. -/
theorem isDiagnostic_eq (e : Event) : e.isDiagnostic = decide ((eventRecord e).message ∈ diagnosticMessages) := by
  cases e <;> rfl

/-- Diagnostics do not interfere. Compiling a node gives the same term or the same error with diagnostics on and off, and what is
left of the events with them on, once those about resolved names and chain steps are taken out, are the events with them off, in the
same order; so it is also where the compilation fails on the way, and for whole descriptions. -/
theorem compile_diagnostics (c : Compiler) (n : Node) :
    let on := c.withDiagnostics true
    let off := c.withDiagnostics false
    let kept := fun e : Event => decide ((eventRecord e).message ∉ diagnosticMessages)
    ((on.compile n).result = (off.compile n).result ∧ (on.compile n).events.filter kept = (off.compile n).events) ∧
      (on.transform n).result = (off.transform n).result ∧ (on.transform n).events.filter kept = (off.transform n).events := by
  intro on off kept
  have hkept : kept = fun e => !e.isDiagnostic := by
    funext e
    rw [isDiagnostic_eq, ← decide_not]
  have hcompile : (on.compile n).undiagnosed = off.compile n := undiagnosed_compile n
  have htransform : (on.transform n).undiagnosed = off.transform n := undiagnosed_transform n
  rw [hkept, ← hcompile, ← htransform]
  exact ⟨⟨rfl, rfl⟩, rfl, rfl⟩

/-- A chain that fails in its last step has recorded the steps before it, with diagnostics on. -/
example :
    let described := Node.seq [.seq [.str "do.string"], .seq [.str "do.label", .str "word"], .seq [.str "do.word"]]
    ((SmallCase.compiler.withDiagnostics true).compile described).events =
        [.resolved "\"do.string\"" .root "string" 0, .resolved "\"do.label\"" .member "label" 1, .step 1 "schema"] ∧
      (SmallCase.compiler.compile described).events = [] ∧
      (SmallCase.compiler.compile described).result = .error (.unresolved "do.word") :=
  ⟨rfl, rfl, rfl⟩

end Compiler

end Schemata
