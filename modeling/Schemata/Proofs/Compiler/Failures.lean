import Schemata.Proofs.Compiler.Invariant

/-!
# Errors of compiling

Compiling a part of a description fails for a name, for the form of an argument, or because a builder refuses
(`compile_failsDirectly`); only a whole description is reported with its text around the error (`wrap_eq_iff`).
-/

namespace Schemata

/-- An error as it arises in a part of a description. -/
inductive CompileError.Direct : CompileError → Prop where
  | unresolved (name : String) : Direct (.unresolved name)
  | argument (builder : String) (fault : ArgumentFault) : Direct (.argument builder fault)
  | build (e : BuildError) : Direct (.build e)

/-- How an error is reported for a description: with its text, unless a builder refused. -/
inductive CompileError.ReportedAs (described : String) : CompileError → CompileError → Prop where
  | unresolved (name : String) : ReportedAs described (.unresolved name) (.within described (.unresolved name))
  | argument (builder : String) (fault : ArgumentFault) :
      ReportedAs described (.argument builder fault) (.within described (.argument builder fault))
  | build (e : BuildError) : ReportedAs described (.build e) (.build e)

/-- An error that arises in a part of a description is wrapped as it is reported. -/
theorem CompileError.Direct.wrap_eq_iff {e : CompileError} (h : e.Direct) (described : String) (e' : CompileError) :
    e.wrap described = e' ↔ e.ReportedAs described e' := by
  cases h with
  | unresolved name =>
    constructor
    · rintro rfl
      exact .unresolved name
    · rintro ⟨⟩
      rfl
  | argument builder fault =>
    constructor
    · rintro rfl
      exact .argument builder fault
    · rintro ⟨⟩
      rfl
  | build e =>
    constructor
    · rintro rfl
      exact .build e
    · rintro ⟨⟩
      rfl

namespace Compiler

open Traced

variable {α : Type} (c : Compiler)

/-- What a builder refuses is an error as it arises. -/
theorem build_failsDirectly (x : Except BuildError α) : (ofExcept (x.mapError .build)).Meets (fun _ => True) CompileError.Direct := by
  refine ⟨fun _ _ => trivial, fun e he => ?_⟩
  obtain ⟨e', -, rfl⟩ := mapError_eq_error_iff.mp he
  exact .build e'

/-- A name is found, or it is the error. -/
theorem resolve_failsDirectly {name : Node} {receiver : Option Term} {e : CompileError}
    (he : c.resolve name receiver = .error e) : e.Direct := by
  unfold resolve at he
  split at he
  · cases h : c.lookup? _ receiver with
    | none =>
      rw [h] at he
      cases he
      exact .unresolved _
    | some binding =>
      rw [h] at he
      cases he
  · cases he
    exact .unresolved _

/-- What stands in the place of a pattern is one, or its form is the error. -/
theorem leadingPattern?_failsDirectly {raw : List Node} {lead : Except CompileError Pattern}
    (h : leadingPattern? raw = some lead) {e : CompileError} (he : lead = .error e) : e.Direct := by
  unfold leadingPattern? at h
  split at h
  · cases h
    obtain ⟨e', -, rfl⟩ := mapError_eq_error_iff.mp he
    exact .argument _ _
  · cases h
    cases he
    exact .argument _ _
  · cases h
    cases he
    exact .argument _ _
  · cases h

/-- A chain goes on with a shape, or what it has is the error. -/
theorem continueWithShape_failsDirectly (acc : Term) :
    (c.continueWithShape acc).Meets (fun _ => True) CompileError.Direct := by
  unfold continueWithShape
  split
  · exact Meets.record_bind (build_failsDirectly _)
  · split
    · exact meets_fail _ (.argument _ _)
    · refine Meets.record_bind ⟨fun _ _ => trivial, fun e he => ?_⟩
      exact (build_failsDirectly _).2 e (map_eq_error_iff.mp he)
  · exact meets_fail _ (.argument _ _)
  · exact meets_fail _ (.argument _ _)

/-- Every step fails with an error as it arises, whatever the terms are. -/
theorem invariant_direct : c.Invariant (fun _ => True) CompileError.Direct where
  literal _ _ := trivial
  pattern _ := trivial
  list _ := ⟨fun _ _ _ => trivial, fun _ => trivial⟩
  shape _ _ := trivial
  nothing := .unresolved _
  lead _ _ h := ⟨fun _ _ => trivial, fun _ => leadingPattern?_failsDirectly h⟩
  resolve _ _ _ := ⟨fun _ _ _ _ => build_failsDirectly _, fun _ => c.resolve_failsDirectly⟩
  continueWithShape acc _ := c.continueWithShape_failsDirectly acc

/-- A node fails with an error as it arises. -/
theorem compile_failsDirectly (n : Node) (e : CompileError) (h : (c.compile n).result = .error e) : e.Direct :=
  (c.invariant_direct.all_meet.1 n).2 e h

end Compiler

end Schemata
