import Schemata.Pattern.Fault
import Schemata.Text.Shorter
import Schemata.Unicode.Property

/-!
# Flags of a pattern

The flags in force at a place of a pattern, the readers of a run of flag letters, and what the verbose flag lets a reader skip:
blanks, and comments from a number sign to the end of the line.
-/

namespace Schemata.Pattern

open Schemata.Unicode

/-- The flags in force: case ignored, lines matched singly, a dot for every character, lazy repetition, Unicode classes, carriage
returns ending lines, and blanks and comments allowed. -/
structure Flags where
  ignoreCase : Bool
  multiLine : Bool
  dotAll : Bool
  lazy : Bool
  unicode : Bool
  wideLines : Bool
  verbose : Bool

namespace Flags

/-- The flags at the start of a pattern. -/
def initial : Flags := ⟨false, false, false, false, true, false, false⟩

/-- Turn the flag of a letter on or off. -/
def assign? (flags : Flags) (letter : Char) (value : Bool) : Option Flags :=
  match letter with
  | 'i' => some { flags with ignoreCase := value }
  | 'm' => some { flags with multiLine := value }
  | 's' => some { flags with dotAll := value }
  | 'U' => some { flags with lazy := value }
  | 'u' => some { flags with unicode := value }
  | 'R' => some { flags with wideLines := value }
  | 'x' => some { flags with verbose := value }
  | _ => none

/-- Read flag letters up to a colon or a closing parenthesis: the new flags, whether there were any letters, that mark, and the
rest. A letter or the negation stands once, and a letter follows the negation. -/
def change? (flags : Flags) (seen : List Char) : (s : List Char) → Except Fault (Flags × Bool × Char × NoLonger s)
  | [] => .error .flagsEnd
  | c :: rest =>
    if c = ':' ∨ c = ')' then
      if seen.head? = some '-' then .error .danglingNegation
      else .ok (flags, !seen.isEmpty, c, ⟨rest, by simp⟩)
    else if seen.contains c then .error .repeatedFlag
    else
      let next := if c = '-' then some flags else flags.assign? c (!seen.contains '-')
      match next with
      | none => .error .unknownFlag
      | some next => (change? next (c :: seen) rest).map fun (f, any, mark, r) =>
          (f, any, mark, ⟨r.1, by have := r.2; simp only [List.length_cons]; omega⟩)

end Flags

/-- Skip blanks and comments; `inComment` while the end of a line is awaited. -/
def skipVerbose (inComment : Bool) : List Char → List Char
  | [] => []
  | c :: rest =>
    if inComment then skipVerbose (c != '\n') rest
    else if whiteSpace.contains c then skipVerbose false rest
    else if c = '#' then skipVerbose true rest
    else c :: rest

/-- Skip what the flags let a reader skip. -/
def skip (flags : Flags) (s : List Char) : List Char :=
  if flags.verbose then skipVerbose false s else s

/-- The character that tells whether a hyphen before it stands for itself, if it is a bracket or a hyphen too. Where blanks and
comments may be skipped, it is the first one that is no blank, but within a comment it counts as well. -/
def afterHyphen? (flags : Flags) (s : List Char) : Option Char :=
  let start := s.dropWhile whiteSpace.contains
  let start := match start with
    | '#' :: comment => comment.dropWhile whiteSpace.contains
    | start => start
  if flags.verbose then start.head?.or s.head? else s.head?

/-- Whether a reader may skip what begins with a character. -/
def isSkipped (flags : Flags) (c : Char) : Bool :=
  flags.verbose && (whiteSpace.contains c || c == '#')

/-- Take at most `limit` characters that satisfy a test, skipping what the flags let a reader skip between them. -/
def take (flags : Flags) (test : Char → Bool) (limit : Nat) (inComment : Bool) : List Char → List Char × List Char
  | [] => ([], [])
  | c :: rest =>
    if inComment then take flags test limit (c != '\n') rest
    else if limit = 0 then ([], c :: rest)
    else if test c then
      let (taken, left) := take flags test (limit - 1) false rest
      (c :: taken, left)
    else if flags.verbose && whiteSpace.contains c then take flags test limit false rest
    else if flags.verbose && c == '#' then take flags test limit true rest
    else ([], c :: rest)

theorem length_skipVerbose_le (inComment : Bool) (s : List Char) : (skipVerbose inComment s).length ≤ s.length := by
  induction s generalizing inComment with
  | nil => simp [skipVerbose]
  | cons c rest ih =>
    have h := fun b => Nat.le_succ_of_le (ih b)
    grind [skipVerbose]

theorem length_skip_le (flags : Flags) (s : List Char) : (skip flags s).length ≤ s.length := by
  unfold skip
  split
  · exact length_skipVerbose_le false s
  · exact Nat.le_refl _

theorem length_take_le (flags : Flags) (test : Char → Bool) (limit : Nat) (inComment : Bool) (s : List Char) :
    (take flags test limit inComment s).2.length ≤ s.length := by
  induction s generalizing limit inComment with
  | nil => simp [take]
  | cons c rest ih =>
    have h := fun l b => Nat.le_succ_of_le (ih l b)
    grind [take]

end Schemata.Pattern
