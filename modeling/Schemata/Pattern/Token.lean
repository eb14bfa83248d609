import Schemata.Pattern.Bracket
import Schemata.Unicode.Latest

/-!
# Tokens of a pattern

A pattern is cut into parts that match by themselves, parentheses, bars and repetitions. The flags in force are settled here: a
change of flags lasts to the end of its group, and a group may set flags of its own.
-/

namespace Schemata.Pattern

open Schemata.Unicode

/-- A part of a pattern: a set with how deep it is nested, an assertion, a change of flags, the parts of groups, of which some record
what they match, and repetitions. -/
inductive Token where
  | set (s : CharSet) (height : Nat)
  | look (assertion : Look)
  | change
  | opening (captures : Bool)
  | closing
  | bar
  | times (isLazy : Bool) (low : Nat) (high : Option Nat)

namespace Flags

/-- The set of a character, in either case when case is ignored. -/
def charToken (flags : Flags) (c : Char) (byte : Bool) : Except Fault Token :=
  if byte && !flags.unicode && 128 ≤ c.toNat then .error .notText
  else .ok (.set (flags.closure (CharSet.single c.toNat)) 0)

/-- The token of an atom. -/
def atomToken (flags : Flags) : Atom → Except Fault Token
  | .char c byte => flags.charToken c byte
  | .set s => .ok (.set s 0)
  | .look assertion => .ok (.look assertion)

/-- What a dot matches: every character, or every one but the ends of lines. -/
def dotToken (flags : Flags) : Except Fault Token :=
  if !flags.unicode then .error .notText
  else if flags.dotAll then .ok (.set CharSet.full 0)
  else if flags.wideLines then .ok (.set (CharSet.complement [(10, 10), (13, 13)]) 0)
  else .ok (.set (CharSet.complement [(10, 10)]) 0)

/-- What a caret asserts. -/
def caret (flags : Flags) : Look :=
  if !flags.multiLine then .textStart else if flags.wideLines then .wideLineStart else .lineStart

/-- What a dollar sign asserts. -/
def dollar (flags : Flags) : Look :=
  if !flags.multiLine then .textEnd else if flags.wideLines then .wideLineEnd else .lineEnd

end Flags

/-- What an opening parenthesis begins: a group with flags of its own, which does not record what it matches, or records it under a
name or none, or a change of flags. -/
inductive Opening where
  | plain (flags : Flags)
  | capture (flags : Flags) (name : Option String)
  | change (flags : Flags)

/-- Whether a character can stand in the name of a group. -/
def isNameChar (first : Bool) (c : Char) : Bool :=
  c == '_' || Latest.alphabetic.contains c
    || (!first && (c == '.' || c == '[' || c == ']' || Latest.numeric.contains c))

/-- A group name up to its closing angle bracket. -/
def groupName (s : List Char) : Except Fault (String × NoLonger s) :=
  let name := s.takeWhile (· != '>')
  match h : s.dropWhile (· != '>') with
  | [] => .error .groupName
  | _ :: left =>
    if !name.isEmpty && isNameChar true (name.headD '>') && name.tail.all (isNameChar false) then
      .ok (String.ofList name, ⟨left, by
        have h1 := length_dropWhile_le (· != '>') s
        simp only [h, List.length_cons] at h1
        omega⟩)
    else .error .groupName

/-- What follows an opening parenthesis up to the contents of the group. -/
def openingOf (flags : Flags) (s : List Char) : Except Fault (Opening × NoLonger s) :=
  match s with
  | '?' :: '=' :: _ | '?' :: '!' :: _ | '?' :: '<' :: '=' :: _ | '?' :: '<' :: '!' :: _ => .error .lookAround
  | '?' :: 'P' :: '<' :: rest => (groupName rest).map fun (name, left) =>
      (.capture flags (some name), ⟨left.1, by have := left.2; simp only [List.length_cons]; omega⟩)
  | '?' :: '<' :: rest => (groupName rest).map fun (name, left) =>
      (.capture flags (some name), ⟨left.1, by have := left.2; simp only [List.length_cons]; omega⟩)
  | '?' :: [] => .error .unclosedGroup
  | '?' :: rest => do
    let (inner, any, mark, left) ← flags.change? [] rest
    let left : NoLonger ('?' :: rest) := ⟨left.1, by have := left.2; simp only [List.length_cons]; omega⟩
    if mark = ':' then return (.plain inner, left)
    else if any then return (.change inner, left)
    else .error .missingOperand
  | s => .ok (.capture flags none, .whole s)

/-- A whole number with blanks around it. -/
def countNumber (flags : Flags) (s : List Char) : Except Fault (Option Nat × NoLonger s) :=
  let start := s.dropWhile whiteSpace.contains
  let taken := take flags Char.isDigit start.length false start
  let left := taken.2.dropWhile whiteSpace.contains
  have h : left.length ≤ s.length := by
    have h1 := length_dropWhile_le whiteSpace.contains s
    have h2 := length_take_le flags Char.isDigit start.length false start
    have h3 := length_dropWhile_le whiteSpace.contains taken.2
    simp only [start, taken, left] at *
    omega
  let n := taken.1.foldl (fun n d => n * 10 + (d.toNat - '0'.toNat)) 0
  if taken.1.isEmpty then .ok (none, ⟨left, h⟩)
  else if n < 0x100000000 then .ok (some n, ⟨left, h⟩)
  else .error .countTooLarge

/-- The bounds of a counted repetition after its opening brace. -/
def countBounds (flags : Flags) (s : List Char) : Except Fault (Nat × Option Nat × NoLonger s) := do
  let (low, left) ← countNumber flags (skip flags s)
  have hl : left.1.length ≤ s.length := Nat.le_trans left.2 (length_skip_le flags s)
  match h : left.1 with
  | '}' :: rest =>
    match low with
    | some low => return (low, some low, ⟨rest, by simp only [h, List.length_cons] at hl; omega⟩)
    | none => .error .missingCount
  | ',' :: rest =>
    have hs := length_skip_le flags rest
    match hk : skip flags rest, low with
    | '}' :: rest', some low =>
      return (low, none, ⟨rest', by simp only [h, hk, List.length_cons] at hl hs; omega⟩)
    | start, low =>
      let (high, left') ← countNumber flags start
      have hl' : left'.1.length ≤ rest.length := Nat.le_trans left'.2 (hk ▸ hs)
      match h' : left'.1, low, high with
      | '}' :: rest', some low, some high =>
        if low ≤ high then
          return (low, some high, ⟨rest', by simp only [h, h', List.length_cons] at hl hl'; omega⟩)
        else .error .countOrder
      | _, some _, some _ => .error .unclosedCount
      | _, _, _ => .error .missingCount
  | _ => if low.isNone && !left.1.isEmpty then .error .missingCount else .error .unclosedCount

/-- A repetition, given what follows it; a question mark after it turns lazy what is not, and the other way around. -/
def Flags.timesToken (flags : Flags) (low : Nat) (high : Option Nat) (after : List Char) : Token :=
  .times (flags.lazy != (after.head? == some '?')) low high

/-- Drop the mark that makes a repetition lazy. -/
def dropLazy : List Char → List Char
  | '?' :: rest => rest
  | s => s

theorem length_dropLazy_le (s : List Char) : (dropLazy s).length ≤ s.length := by
  unfold dropLazy
  split <;> simp

/-- Cut a pattern into tokens, under the flags in force, those of the groups around, and the names that groups have so far. -/
def tokens (flags : Flags) (outer : List Flags) (names : List String) (s : List Char) : Except Fault (List Token) :=
  have hs := length_skip_le flags s
  match h : skip flags s with
  | [] => if outer.isEmpty then .ok [] else .error .unclosedGroup
  | '(' :: rest => do
    let (opening, left) ← openingOf flags (skip flags rest)
    have hl : left.1.length < s.length := by
      have h1 := length_skip_le flags rest
      have h2 := left.2
      simp only [h, List.length_cons] at hs
      omega
    match opening with
    | .change inner => return .change :: (← tokens inner outer names left.1)
    | .plain inner => return .opening false :: (← tokens inner (flags :: outer) names left.1)
    | .capture inner none => return .opening true :: (← tokens inner (flags :: outer) names left.1)
    | .capture inner (some name) =>
      if names.contains name then .error .repeatedGroupName
      else return .opening true :: (← tokens inner (flags :: outer) (name :: names) left.1)
  | ')' :: rest =>
    match outer with
    | [] => .error .unopenedGroup
    | flags' :: outer' => do return .closing :: (← tokens flags' outer' names rest)
  | '|' :: rest => do return .bar :: (← tokens flags outer names rest)
  | '[' :: rest => do
    let (nested, left) ← bracket flags rest
    return .set nested.set nested.height :: (← tokens flags outer names left.1)
  | '?' :: rest => do return flags.timesToken 0 (some 1) rest :: (← tokens flags outer names (dropLazy rest))
  | '*' :: rest => do return flags.timesToken 0 none rest :: (← tokens flags outer names (dropLazy rest))
  | '+' :: rest => do return flags.timesToken 1 none rest :: (← tokens flags outer names (dropLazy rest))
  | '{' :: rest => do
    let (low, high, left) ← countBounds flags rest
    let after := skip flags left.1
    return flags.timesToken low high after :: (← tokens flags outer names (dropLazy after))
  | '.' :: rest => do return (← flags.dotToken) :: (← tokens flags outer names rest)
  | '^' :: rest => do return .look flags.caret :: (← tokens flags outer names rest)
  | '$' :: rest => do return .look flags.dollar :: (← tokens flags outer names rest)
  | '\\' :: rest => do
    let (atom, left) ← escape flags rest
    return (← flags.atomToken atom) :: (← tokens flags outer names left.1)
  | c :: rest => do return (← flags.charToken c false) :: (← tokens flags outer names rest)
termination_by s.length
decreasing_by
  all_goals simp only [h, List.length_cons] at hs
  all_goals try omega
  · have := length_dropLazy_le rest
    omega
  · have := length_dropLazy_le rest
    omega
  · have := length_dropLazy_le rest
    omega
  · have h1 := length_dropLazy_le (skip flags left.1)
    have h2 := length_skip_le flags left.1
    have := left.2
    omega

end Schemata.Pattern
