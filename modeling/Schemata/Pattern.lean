import Schemata.Pattern.Reader

/-!
# Patterns

A pattern is a text together with the expression it writes. The text determines the expression, so two patterns with one text
are the same pattern (`Pattern.ext_source`).
-/

namespace Schemata

/-- A pattern: its text, and the expression that the text writes. -/
structure Pattern where
  source : String
  expr : Pattern.Expr
  written : Pattern.readExpr source = .ok expr

namespace Pattern

/-- The pattern that a text writes, or what is wrong with it. -/
def compile (source : String) : Except Fault Pattern :=
  match h : readExpr source with
  | .ok expr => .ok ⟨source, expr, h⟩
  | .error fault => .error fault

/-- Some part of a text matches. -/
def isMatch (p : Pattern) (s : String) : Bool :=
  p.expr.isMatch s

/-- The text of a pattern determines it. -/
theorem ext_source {p q : Pattern} (h : p.source = q.source) : p = q := by
  obtain ⟨s, e, he⟩ := p
  obtain ⟨t, f, hf⟩ := q
  simp only at h
  subst h
  rw [he] at hf
  cases hf
  rfl

instance : DecidableEq Pattern := fun p q =>
  if h : p.source = q.source then isTrue (ext_source h) else isFalse fun e => h (e ▸ rfl)

/-- Compiling a text that writes a pattern keeps the text. -/
theorem source_of_compile {source : String} {p : Pattern} (h : compile source = .ok p) : p.source = source := by
  unfold compile at h
  split at h
  · cases h
    rfl
  · cases h

/-- The text of a pattern compiles to it. -/
theorem compile_source (p : Pattern) : compile p.source = .ok p := by
  unfold compile
  split
  · rename_i e h
    exact congrArg Except.ok (ext_source rfl)
  · rename_i fault h
    rw [p.written] at h
    cases h

end Pattern

end Schemata
