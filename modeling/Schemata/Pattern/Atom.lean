import Schemata.Pattern.Expr
import Schemata.Pattern.Flags

/-!
# Atoms of a pattern

The smallest parts of a pattern: a character written plainly or by an escape, a set that a name stands for, and an assertion.
-/

namespace Schemata.Pattern

open Schemata.Unicode

/-- A character, a set of characters, or an assertion; `byte` marks a character written by two hexadecimal digits. -/
inductive Atom where
  | char (c : Char) (byte : Bool)
  | set (s : CharSet)
  | look (assertion : Look)

/-- The letters of the Latin alphabet. -/
def latin : CharSet := [(65, 90), (97, 122)]

/-- Blanks of the Latin alphabet. -/
def latinSpace : CharSet := [(9, 13), (32, 32)]

/-- Word characters of the Latin alphabet. -/
def latinWord : CharSet := [(48, 57), (65, 90), (95, 95), (97, 122)]

/-- A set with the other case of each Latin letter in it. -/
def latinClosure (s : CharSet) : CharSet :=
  let lower := (s.inter [(65, 90)]).map fun (low, high) => (low + 32, high + 32)
  let upper := (s.inter [(97, 122)]).map fun (low, high) => (low - 32, high - 32)
  CharSet.ofRanges (s ++ lower ++ upper)

namespace Flags

/-- The word characters that the flags mean. -/
def wordSet (flags : Flags) : CharSet :=
  if flags.unicode then word else latinWord

/-- A set with all that differs from it by case alone, when case is ignored. -/
def closure (flags : Flags) (s : CharSet) : CharSet :=
  if !flags.ignoreCase then s else if flags.unicode then caseClosure s else latinClosure s

/-- What is not in a set; without Unicode that would hold bytes that are no text. -/
def complement (flags : Flags) (s : CharSet) : Except Fault CharSet :=
  if flags.unicode then .ok s.complement else .error .notText

/-- The set, or what is not in it. -/
def signed (flags : Flags) (negated : Bool) (s : CharSet) : Except Fault CharSet :=
  if negated then flags.complement s else .ok s

end Flags

/-- The digit, blank and word classes, in capitals what is not in them. -/
def letterClass? (flags : Flags) (c : Char) : Option (Except Fault CharSet) :=
  let digits := if flags.unicode then decimalDigit else [(48, 57)]
  let space := if flags.unicode then whiteSpace else latinSpace
  match c with
  | 'd' => some (.ok digits)
  | 's' => some (.ok space)
  | 'w' => some (.ok flags.wordSet)
  | 'D' => some (flags.complement digits)
  | 'S' => some (flags.complement space)
  | 'W' => some (flags.complement flags.wordSet)
  | _ => none

/-- The characters that an escape may name although they need none or mean something else without it. -/
def isEscapable (c : Char) : Bool :=
  c.toNat < 128 && !c.isAlphanum && c != '<' && c != '>'

/-- A control character that a letter stands for. -/
def controlEscape? (c : Char) : Option Char :=
  match c with
  | 'a' => some '\x07'
  | 'f' => some '\x0c'
  | 't' => some '\t'
  | 'n' => some '\n'
  | 'r' => some '\r'
  | 'v' => some '\x0b'
  | _ => none

/-- Whether a character is a hexadecimal digit. -/
def isHexDigit (c : Char) : Bool :=
  c.isDigit || ('a' ≤ c && c ≤ 'f') || ('A' ≤ c && c ≤ 'F')

/-- The character that hexadecimal digits write. -/
def hexChar? (digits : List Char) : Except Fault Char :=
  let n := CharSet.hexValue (String.ofList (digits.map Char.toLower))
  if n.isValidChar then .ok (Char.ofNat n) else .error .hexValue

/-- A character by hexadecimal digits: a given number of them, or any number between braces. -/
def hexEscape (flags : Flags) (count : Nat) (s : List Char) : Except Fault (Atom × NoLonger s) := do
  match h : skip flags s with
  | [] => .error .escapeEnd
  | '{' :: rest =>
    let taken := take flags isHexDigit rest.length false rest
    match h' : taken.2 with
    | '}' :: left =>
      if taken.1.isEmpty then .error .hexEmpty
      else
        have : left.length ≤ s.length := by
          have h1 := length_take_le flags isHexDigit rest.length false rest
          have h2 := length_skip_le flags s
          simp only [taken, h] at h' h2
          rw [h'] at h1
          simp only [List.length_cons] at h1 h2
          omega
        return (.char (← hexChar? taken.1) false, ⟨left, this⟩)
    | [] => .error .escapeEnd
    | _ => .error .hexDigit
  | start =>
    let taken := take flags isHexDigit count false (skip flags s)
    if taken.1.length < count then .error (if taken.2.isEmpty then .escapeEnd else .hexDigit)
    else
      have : taken.2.length ≤ s.length :=
        Nat.le_trans (length_take_le flags isHexDigit count false (skip flags s)) (length_skip_le flags s)
      return (.char (← hexChar? taken.1) (count == 2), ⟨taken.2, this⟩)

/-- The set that a property name, or a property and a value of it, stands for. -/
def propertySet (name : String) : Except Fault (Bool × CharSet) :=
  let lookup := fun (found : Option CharSet) => found.elim (Except.error Fault.unknownProperty) .ok
  match name.splitOn "!=" with
  | property :: value :: more => (lookup (valued? property ("!=".intercalate (value :: more)))).map (true, ·)
  | _ =>
    match name.splitOn ":" with
    | property :: value :: more => (lookup (valued? property (":".intercalate (value :: more)))).map (false, ·)
    | _ =>
      match name.splitOn "=" with
      | property :: value :: more => (lookup (valued? property ("=".intercalate (value :: more)))).map (false, ·)
      | _ => (lookup (named? name)).map (false, ·)

/-- A set by a property: one letter, or a name between braces. -/
def propertyEscape (flags : Flags) (negated : Bool) (s : List Char) : Except Fault (Atom × NoLonger s) := do
  let finish := fun (name : String) => do
    if !flags.unicode then throw Fault.unicodeNotAllowed
    let (other, set) ← propertySet name
    flags.signed (negated != other) (flags.closure set)
  match h : skip flags s with
  | [] => .error .escapeEnd
  | '{' :: rest =>
    let isName := fun (c : Char) => c != '}' && !isSkipped flags c
    let taken := take flags isName rest.length false rest
    match h' : taken.2 with
    | '}' :: left =>
      have : left.length ≤ s.length := by
        have h1 := length_take_le flags isName rest.length false rest
        have h2 := length_skip_le flags s
        simp only [taken, h] at h' h2
        rw [h'] at h1
        simp only [List.length_cons] at h1 h2
        omega
      return (.set (← finish (String.ofList taken.1)), ⟨left, this⟩)
    | _ => .error .escapeEnd
  | '\\' :: _ => .error .unknownProperty
  | c :: rest =>
    have : rest.length ≤ s.length := by
      have h2 := length_skip_le flags s
      rw [h] at h2
      simp only [List.length_cons] at h2
      omega
    return (.set (← finish (String.singleton c)), ⟨rest, this⟩)

/-- A word boundary; braces after it may say which side of a word is meant, unless they are a repetition. -/
def boundaryEscape (flags : Flags) (s : List Char) : Except Fault (Atom × NoLonger s) := do
  let plain := fun (s : List Char) => ((.look (.boundary flags.wordSet), .whole s) : Atom × NoLonger s)
  let isName := fun (c : Char) => c.isAlpha || c == '-'
  match hs : s with
  | '{' :: rest =>
    if (skip flags rest).isEmpty then .error .unclosedBoundary
    else if !((skip flags rest).head?.any isName) then .ok (plain _)
    else
      let taken := take flags isName rest.length false rest
      match h : taken.2 with
      | '}' :: left =>
        have : left.length ≤ s.length := by
          have h1 := length_take_le flags isName rest.length false rest
          simp only [taken] at h
          rw [h] at h1
          simp only [hs, List.length_cons] at h1 ⊢
          omega
        let look ← match String.ofList taken.1 with
          | "start" => .ok (Look.wordStart flags.wordSet)
          | "end" => .ok (Look.wordEnd flags.wordSet)
          | "start-half" => .ok (Look.wordStartHalf flags.wordSet)
          | "end-half" => .ok (Look.wordEndHalf flags.wordSet)
          | _ => .error .unknownBoundary
        return (.look look, ⟨left, hs ▸ this⟩)
      | _ => .error .unclosedBoundary
  | _ => .ok (plain _)

/-- What follows a backslash. -/
def escape (flags : Flags) (s : List Char) : Except Fault (Atom × Shorter s) :=
  match s with
  | [] => .error .escapeEnd
  | c :: rest =>
    let done := fun (atom : Atom) => Except.ok (ε := Fault) (atom, (.tail rest : Shorter (c :: rest)))
    let from' := fun (read : Except Fault (Atom × NoLonger rest)) =>
      read.map fun (atom, left) => (atom, (left.tail : Shorter (c :: rest)))
    if c.isDigit then .error .backreference
    else if isEscapable c then done (.char c false)
    else if let some control := controlEscape? c then done (.char control false)
    else if let some set := letterClass? flags c then set.bind (done ∘ .set)
    else
      match c with
      | 'x' => from' (hexEscape flags 2 rest)
      | 'u' => from' (hexEscape flags 4 rest)
      | 'U' => from' (hexEscape flags 8 rest)
      | 'p' => from' (propertyEscape flags false rest)
      | 'P' => from' (propertyEscape flags true rest)
      | 'A' => done (.look .textStart)
      | 'z' => done (.look .textEnd)
      | 'b' => from' (boundaryEscape flags rest)
      | 'B' => done (.look (.notBoundary flags.wordSet))
      | '<' => done (.look (.wordStart flags.wordSet))
      | '>' => done (.look (.wordEnd flags.wordSet))
      | _ => .error .unknownEscape

end Schemata.Pattern
