import Schemata.Unicode.Property

/-!
# Regular expressions

An expression matches a text when it matches some part of it. The matcher keeps the list of expressions that may still match
what follows: `steps` says what is left of an expression after one more character, and `nullable` whether it may end here. Both
look at the characters on either side, because an assertion (`Look`) is about them.
-/

namespace Schemata.Pattern

open Schemata.Unicode

/-- What a place in a text can be asked for. -/
inductive Look where
  | textStart
  | textEnd
  | lineStart
  | lineEnd
  | wideLineStart
  | wideLineEnd
  | boundary (word : CharSet)
  | notBoundary (word : CharSet)
  | wordStart (word : CharSet)
  | wordEnd (word : CharSet)
  | wordStartHalf (word : CharSet)
  | wordEndHalf (word : CharSet)
deriving DecidableEq

/-- The word characters that an assertion is about, if it is about words. -/
def Look.word? : Look → Option CharSet
  | .boundary word | .notBoundary word | .wordStart word | .wordEnd word | .wordStartHalf word | .wordEndHalf word => some word
  | .textStart | .textEnd | .lineStart | .lineEnd | .wideLineStart | .wideLineEnd => none

/-- A place in a text: the character before it and the one after it. -/
structure Place where
  before : Option Char
  after : Option Char

/-- A character that exists and is in a set. -/
def isIn (set : CharSet) (c : Option Char) : Bool :=
  (c.map set.contains).getD false

/-- An assertion holds at a place. In the wide forms a carriage return ends a line too, and a pair of the two ends it once. -/
def Look.holds (look : Look) (place : Place) : Bool :=
  match look with
  | .textStart => place.before.isNone
  | .textEnd => place.after.isNone
  | .lineStart => place.before.isNone || place.before == some '\n'
  | .lineEnd => place.after.isNone || place.after == some '\n'
  | .wideLineStart =>
    place.before.isNone || place.before == some '\n' || (place.before == some '\r' && place.after != some '\n')
  | .wideLineEnd =>
    place.after.isNone || place.after == some '\r' || (place.after == some '\n' && place.before != some '\r')
  | .boundary word => isIn word place.before != isIn word place.after
  | .notBoundary word => isIn word place.before == isIn word place.after
  | .wordStart word => !isIn word place.before && isIn word place.after
  | .wordEnd word => isIn word place.before && !isIn word place.after
  | .wordStartHalf word => !isIn word place.before
  | .wordEndHalf word => !isIn word place.after

/-- A regular expression; `times low high e` is `e` repeated at least `low` times and at most `high` times, if there is a bound. -/
inductive Expr where
  | empty
  | char (set : CharSet)
  | look (assertion : Look)
  | seq (first second : Expr)
  | either (left right : Expr)
  | times (low : Nat) (high : Option Nat) (e : Expr)
deriving DecidableEq

namespace Expr

/-- One expression after another; an empty first one leaves no trace. -/
def andThen (first second : Expr) : Expr :=
  match first with
  | .empty => second
  | first => .seq first second

/-- The assertions of an expression. -/
def looks : Expr → List Look
  | .empty => []
  | .char _ => []
  | .look assertion => [assertion]
  | .seq a b => a.looks ++ b.looks
  | .either a b => a.looks ++ b.looks
  | .times _ _ e => e.looks

/-- Matches the empty text at any place. -/
def vanishes : Expr → Bool
  | .empty => true
  | .char _ => false
  | .look _ => false
  | .seq a b => a.vanishes && b.vanishes
  | .either a b => a.vanishes || b.vanishes
  | .times low _ e => low == 0 || e.vanishes

/-- Matches no text but the empty one. -/
def isHollow : Expr → Bool
  | .empty => true
  | .char _ => false
  | .look _ => true
  | .seq a b => a.isHollow && b.isHollow
  | .either a b => a.isHollow && b.isHollow
  | .times _ high e => high == some 0 || e.isHollow

/-- A repetition; what is hollow need not be repeated more than once. -/
def repeated (e : Expr) (low : Nat) (high : Option Nat) : Expr :=
  if e.isHollow then .times (min low 1) (some (min (high.getD 1) 1)) e else .times low high e

/-- The same expression, in which what can vanish need not be repeated a least number of times. -/
def relaxed : Expr → Expr
  | .seq a b => .seq a.relaxed b.relaxed
  | .either a b => .either a.relaxed b.relaxed
  | .times low high e => .times (if e.vanishes then 0 else low) high e.relaxed
  | e => e

/-- Matches the empty text at a place. -/
def nullable (place : Place) : Expr → Bool
  | .empty => true
  | .char _ => false
  | .look assertion => assertion.holds place
  | .seq a b => a.nullable place && b.nullable place
  | .either a b => a.nullable place || b.nullable place
  | .times low _ e => low == 0 || e.nullable place

/-- What is left of a repetition after one round, and after some rounds that match the empty text if they may. -/
def rounds (e : Expr) (low : Nat) (high : Option Nat) (mayBeEmpty : Bool) : List Expr :=
  let skips := if mayBeEmpty then List.range (max low 1) else [0]
  skips.filterMap fun skipped =>
    if high.any (· ≤ skipped) then none else some (.times (low - 1 - skipped) (high.map (· - 1 - skipped)) e)

/-- What may be left of an expression once a character at a place is read. -/
def steps (place : Place) (c : Char) : Expr → List Expr
  | .empty => []
  | .char set => if set.contains c then [.empty] else []
  | .look _ => []
  | .seq a b => (a.steps place c).map (·.andThen b) ++ (if a.nullable place then b.steps place c else [])
  | .either a b => a.steps place c ++ b.steps place c
  | .times low high e =>
    (e.steps place c).flatMap fun left => (rounds e low high (e.nullable place)).map (left.andThen ·)

/-- Some part of the text matches, given what may be left of attempts that began earlier. -/
def matchesFrom (e : Expr) (left : List Expr) (before : Option Char) : List Char → Bool
  | [] => (e :: left).any (nullable ⟨before, none⟩)
  | c :: rest =>
    let place : Place := ⟨before, some c⟩
    let left := e :: left
    left.any (nullable place) || matchesFrom e (left.flatMap (steps place c)).eraseDups (some c) rest

/-- Some part of a text matches. -/
def isMatch (e : Expr) (s : String) : Bool :=
  matchesFrom e [] none s.toList

end Expr

end Schemata.Pattern
