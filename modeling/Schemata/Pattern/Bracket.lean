import Schemata.Pattern.Atom

/-!
# Bracketed sets

A set between brackets is a union of characters, ranges, named sets and sets in brackets of their own; `&&`, `--` and `~~` between
unions mean intersection, difference and symmetric difference, from left to right. The height counts how deep parts are nested.
-/

namespace Schemata.Pattern

open Schemata.Unicode

/-- An operator between two unions. -/
inductive SetOp where
  | inter
  | diff
  | symmDiff

/-- What an operator means. -/
def SetOp.apply : SetOp → CharSet → CharSet → CharSet
  | .inter, a, b => a.inter b
  | .diff, a, b => a.diff b
  | .symmDiff, a, b => a.symmDiff b

/-- A set, and how deep its parts are nested. -/
structure Nested where
  set : CharSet
  height : Nat

/-- The operand read so far, the operator and left operand that wait for it, and how many items it has. -/
structure Operand where
  waiting : Option (SetOp × Nested)
  union : CharSet
  items : Nat
  height : Nat

namespace Operand

/-- An operand without items. -/
def start (waiting : Option (SetOp × Nested)) : Operand := ⟨waiting, [], 0, 0⟩

/-- An operand with one more item. -/
def add (operand : Operand) (set : CharSet) (height : Nat) : Operand :=
  { operand with union := set ++ operand.union, items := operand.items + 1, height := max operand.height height }

/-- The value of what is read so far. -/
def value (flags : Flags) (operand : Operand) : Nested :=
  let right : Nested :=
    ⟨CharSet.ofRanges operand.union, if operand.items ≤ 1 then operand.height else operand.height + 1⟩
  match operand.waiting with
  | none => right
  | some (op, left) => ⟨op.apply (flags.closure left.set) (flags.closure right.set), max left.height right.height + 1⟩

end Operand

/-- The Latin sets that have a name between brackets. -/
def latinSet? (name : String) : Option CharSet :=
  match name with
  | "alnum" => some [(48, 57), (65, 90), (97, 122)]
  | "alpha" => some latin
  | "ascii" => some [(0, 127)]
  | "blank" => some [(9, 9), (32, 32)]
  | "cntrl" => some [(0, 31), (127, 127)]
  | "digit" => some [(48, 57)]
  | "graph" => some [(33, 126)]
  | "lower" => some [(97, 122)]
  | "print" => some [(32, 126)]
  | "punct" => some [(33, 47), (58, 64), (91, 96), (123, 126)]
  | "space" => some latinSpace
  | "upper" => some [(65, 90)]
  | "word" => some latinWord
  | "xdigit" => some [(48, 57), (65, 70), (97, 102)]
  | _ => none

/-- The Latin set whose name comes first, up to a colon and a closing bracket. -/
def nameAndClose? (s : List Char) : Option (CharSet × NoLonger s) :=
  match h : s.dropWhile (· != ':') with
  | ':' :: ']' :: left =>
    (latinSet? (String.ofList (s.takeWhile (· != ':')))).map fun set =>
      (set, ⟨left, by
        have h1 := length_dropWhile_le (· != ':') s
        simp only [h, List.length_cons] at h1
        omega⟩)
  | _ => none

/-- A named Latin set such as `[:alpha:]` or `[:^alpha:]`, given what follows its bracket: whether it is negated, and the set. -/
def namedSet? (s : List Char) : Option (Bool × CharSet × NoLonger s) :=
  match s with
  | ':' :: '^' :: body => (nameAndClose? body).map fun (set, left) =>
      (true, set, ⟨left.1, by have := left.2; simp only [List.length_cons]; omega⟩)
  | ':' :: body => (nameAndClose? body).map fun (set, left) =>
      (false, set, ⟨left.1, by have := left.2; simp only [List.length_cons]; omega⟩)
  | _ => none

/-- One character, by itself or by an escape, or what else an escape may mean. -/
def member (flags : Flags) (s : List Char) : Except Fault (Atom × Shorter s) :=
  match s with
  | [] => .error .unclosedClass
  | '\\' :: rest => (escape flags rest).map fun (atom, left) => (atom, left.behind ['\\'])
  | c :: rest => .ok (.char c false, .tail rest)

/-- The code point of a member that is a character; without Unicode it is a Latin one. -/
def codePoint (flags : Flags) : Atom → Except Fault Nat
  | .char c _ => if flags.unicode || c.toNat < 128 then .ok c.toNat else .error .unicodeNotAllowed
  | _ => .error .rangeEnd

/-- The set of a member that stands alone. -/
def memberSet (flags : Flags) : Atom → Except Fault CharSet
  | .set s => .ok s
  | .look _ => .error .escapeInClass
  | atom => (codePoint flags atom).map CharSet.single

/-- A member, or a range between two of them. -/
def memberOrRange (flags : Flags) (s : List Char) : Except Fault (CharSet × Shorter s) := do
  let (first, left) ← member flags s
  match h : skip flags left.1 with
  | [] => .error .unclosedClass
  | '-' :: rest =>
    have hrest : rest.length < left.1.length := by
      have h1 := length_skip_le flags left.1
      rw [h] at h1
      exact h1
    if afterHyphen? flags rest = some ']' ∨ afterHyphen? flags rest = some '-' then
      return (← memberSet flags first, left)
    else
      let (second, left') ← member flags (skip flags rest)
      let low ← codePoint flags first
      let high ← codePoint flags second
      if high < low then .error .rangeOrder
      else
        have : left'.1.length < s.length := by
          have h1 := left'.2
          have h2 := length_skip_le flags rest
          have h3 := left.2
          omega
        return ([(low, high)], ⟨left'.1, this⟩)
  | _ => return (← memberSet flags first, left)

mutual

/-- The rest of a union or of a chain of operators, up to and with the closing bracket. -/
def operands (flags : Flags) (operand : Operand) (s : List Char) : Except Fault (Nested × Shorter s) :=
  match h : skip flags s with
  | [] => .error .unclosedClass
  | ']' :: rest => .ok (operand.value flags, ⟨rest, by
      have := length_skip_le flags s; simp only [h, List.length_cons] at this; omega⟩)
  | '[' :: rest =>
    have hr : rest.length < s.length := by
      have := length_skip_le flags s; simp only [h, List.length_cons] at this; omega
    match namedSet? rest with
    | some (negated, set, left) => do
      let set ← flags.signed negated (flags.closure set)
      let (nested, left') ← operands flags (operand.add set 0) left.1
      return (nested, left'.within (by have := left.2; omega))
    | none => do
      let (inner, left) ← bracket flags rest
      let (nested, left') ← operands flags (operand.add inner.set inner.height) left.1
      return (nested, left'.within (by have := left.2; omega))
  | '&' :: '&' :: rest => do
    let (nested, left) ← operands flags (.start (some (.inter, operand.value flags))) rest
    return (nested, left.within (by
      have := length_skip_le flags s; simp only [h, List.length_cons] at this; omega))
  | '-' :: '-' :: rest => do
    let (nested, left) ← operands flags (.start (some (.diff, operand.value flags))) rest
    return (nested, left.within (by
      have := length_skip_le flags s; simp only [h, List.length_cons] at this; omega))
  | '~' :: '~' :: rest => do
    let (nested, left) ← operands flags (.start (some (.symmDiff, operand.value flags))) rest
    return (nested, left.within (by
      have := length_skip_le flags s; simp only [h, List.length_cons] at this; omega))
  | start => do
    let (set, left) ← memberOrRange flags (skip flags s)
    let (nested, left') ← operands flags (operand.add set 0) left.1
    return (nested, left'.within (by have := length_skip_le flags s; have := left.2; omega))
termination_by (s.length, 0)
decreasing_by
  all_goals apply Prod.Lex.left
  · have := left.2
    omega
  · exact hr
  · have := left.2
    omega
  · have := length_skip_le flags s
    simp only [h, List.length_cons] at this
    omega
  · have := length_skip_le flags s
    simp only [h, List.length_cons] at this
    omega
  · have := length_skip_le flags s
    simp only [h, List.length_cons] at this
    omega
  · have := length_skip_le flags s
    have := left.2
    omega

/-- A bracketed set after its opening bracket: a caret negates it, and hyphens or else a bracket at its start are members. -/
def bracket (flags : Flags) (s : List Char) : Except Fault (Nested × Shorter s) := do
  let start := skip flags s
  let negated := start.head? = some '^'
  let body := skip flags (if negated then start.drop 1 else start)
  let hyphens := take flags (· == '-') body.length false body
  have hbody : hyphens.2.length ≤ s.length := by
    have h1 := length_skip_le flags s
    have h2 := length_skip_le flags (if negated then start.drop 1 else start)
    have h3 := length_take_le flags (· == '-') body.length false body
    have h4 : (if negated then start.drop 1 else start).length ≤ start.length := by
      split
      · exact (List.drop_sublist 1 start).length_le
      · exact Nat.le_refl _
    simp only [start, body, hyphens] at *
    omega
  let operand : Operand := hyphens.1.foldl (fun o _ => o.add (CharSet.single 45) 0) (.start none)
  let literalBracket := hyphens.1.isEmpty ∧ hyphens.2.head? = some ']'
  let operand := if literalBracket then operand.add (CharSet.single 93) 0 else operand
  let rest := if literalBracket then hyphens.2.drop 1 else hyphens.2
  have hrest : rest.length ≤ s.length := by
    have h4 : rest.length ≤ hyphens.2.length := by
      simp only [rest]
      split
      · exact (List.drop_sublist 1 hyphens.2).length_le
      · exact Nat.le_refl _
    omega
  let (nested, left) ← operands flags operand rest
  let set ← flags.signed negated (flags.closure nested.set)
  return (⟨set, nested.height + 1⟩, left.within hrest)
termination_by (s.length, 1)
decreasing_by
  rcases Nat.lt_or_eq_of_le hrest with h | h
  · exact Prod.Lex.left _ _ h
  · rw [← h]
    exact Prod.Lex.right _ (by omega)

end

end Schemata.Pattern
