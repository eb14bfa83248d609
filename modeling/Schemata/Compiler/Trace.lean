import Schemata.Compiler.Error

/-!
# Traced compilation

A compilation gives a term or an error, and a record of what happened on the way, which an error does not take back.
-/

namespace Schemata

/-- Where a builder comes from. -/
inductive Source where
  | custom
  | member
  | root
deriving DecidableEq

/-- Something that happened during a compilation. -/
inductive Event where
  | resolved (name : String) (source : Source) (builder : String) (arguments : Nat)
  | step (index : Nat) (result : String)
  | rootCall (root : String) (arguments : Nat)
  | memberCall (member kind : String) (arguments : Nat)
deriving DecidableEq

/-- An event that is recorded only when diagnostics are on. -/
def Event.isDiagnostic : Event → Bool
  | .resolved _ _ _ _ => true
  | .step _ _ => true
  | _ => false

/-- What a compilation gives, with what happened on the way. -/
structure Traced (α : Type) where
  events : List Event
  result : Except CompileError α

namespace Traced

variable {α β γ : Type}

/-- A result without events. -/
def ofExcept (result : Except CompileError α) : Traced α := ⟨[], result⟩

/-- Record an event. -/
def record (e : Event) : Traced Unit := ⟨[e], .ok ()⟩

/-- Record an event if a condition holds. -/
def recordIf (condition : Bool) (e : Event) : Traced Unit :=
  if condition then record e else ⟨[], .ok ()⟩

/-- Go on with a result; the events of both parts remain, in order. -/
def andThen (x : Traced α) (f : α → Traced β) : Traced β :=
  match x.result with
  | .ok a => ⟨x.events ++ (f a).events, (f a).result⟩
  | .error e => ⟨x.events, .error e⟩

instance : Monad Traced where
  pure a := ⟨[], .ok a⟩
  bind := andThen

/-- Mapping the identity changes nothing. -/
theorem map_id (x : Traced α) : id <$> x = x := by
  obtain ⟨events, result⟩ := x
  cases result <;> simp [Functor.map, andThen]

/-- Going on in two steps is going on with the second step inside the first. -/
theorem andThen_assoc (x : Traced α) (f : α → Traced β) (g : β → Traced γ) :
    (x.andThen f).andThen g = x.andThen fun a => (f a).andThen g := by
  obtain ⟨events, result⟩ := x
  cases result with
  | error e => simp [andThen]
  | ok a => cases h : (f a).result <;> simp [andThen, h]

instance : LawfulMonad Traced :=
  LawfulMonad.mk' Traced map_id (fun a f => by simp [bind, pure, andThen]) andThen_assoc

/-- Change the error of a result. -/
def mapError (f : CompileError → CompileError) (x : Traced α) : Traced α :=
  ⟨x.events, x.result.mapError f⟩

/-- Fail. -/
def fail (e : CompileError) : Traced α := ⟨[], .error e⟩

end Traced

end Schemata
