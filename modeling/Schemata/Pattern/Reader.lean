import Schemata.Pattern.Machine
import Schemata.Pattern.Token

/-!
# Reading patterns

The tokens of a pattern are put together into an expression. Of a pattern that nests too deep, or whose machine would take too much
room, nothing is made.
-/

namespace Schemata.Pattern

open Schemata.Unicode

/-- What is made of a piece of a pattern: an expression, its shape, and how deep it is nested. -/
structure Piece where
  expr : Expr
  shape : Shape
  height : Nat

namespace Piece

/-- A character of a set, nested so deep. -/
def ofSet (s : CharSet) (height : Nat) : Piece := ⟨.char s, .ofSet s, height⟩

/-- An assertion. -/
def ofLook (assertion : Look) : Piece := ⟨.look assertion, .look assertion, 0⟩

/-- A repetition. -/
def repeated (p : Piece) (isLazy : Bool) (low : Nat) (high : Option Nat) : Piece :=
  ⟨p.expr.repeated low high, p.shape.repeated isLazy low high, p.height + 1⟩

/-- What stands between parentheses. -/
def grouped (p : Piece) (captures : Bool) : Piece :=
  ⟨p.expr, if captures then .capture p.shape else p.shape, p.height + 1⟩

end Piece

/-- A part of a sequence: a piece, or a change of flags, which nothing can repeat. -/
inductive Part where
  | piece (p : Piece)
  | change

/-- The piece of a part that is one. -/
def Part.piece? : Part → Option Piece
  | .piece p => some p
  | .change => none

/-- A group being read: whether it records what it matches, the branches before the last bar and the parts of the branch after it,
the latest first. -/
structure Group where
  captures : Bool
  branches : List Piece
  parts : List Part

namespace Group

/-- A group of which nothing is read yet. -/
def start (captures : Bool) : Group := ⟨captures, [], []⟩

/-- The height of the tallest of some pieces. -/
def tallest (pieces : List Piece) : Nat :=
  (pieces.map (·.height)).foldl max 0

/-- The branch being read: its parts one after another. -/
def branch (group : Group) : Piece where
  expr := (group.parts.filterMap Part.piece?).foldl (fun rest p => if rest = .empty then p.expr else .seq p.expr rest) .empty
  shape := .inOrder ((group.parts.filterMap Part.piece?).reverse.map (·.shape))
  height :=
    let height := tallest (group.parts.filterMap Part.piece?)
    if group.parts.length ≤ 1 then height else height + 1

/-- What a group matches: one of its branches. -/
def close (group : Group) : Piece :=
  match group.branches with
  | [] => group.branch
  | before => {
      expr := before.foldl (fun e p => .either p.expr e) group.branch.expr
      shape := .choose ((group.branch :: before).reverse.map (·.shape))
      height := tallest (group.branch :: before) + 1 }

/-- A group with one more part. -/
def push (group : Group) (p : Piece) : Group :=
  { group with parts := .piece p :: group.parts }

end Group

/-- Put tokens together: the group being read, and the groups around it, the nearest first. -/
def assemble (group : Group) (outer : List Group) : List Token → Except Fault Piece
  | [] => .ok group.close
  | .set s height :: rest => assemble (group.push (.ofSet s height)) outer rest
  | .look assertion :: rest => assemble (group.push (.ofLook assertion)) outer rest
  | .change :: rest => assemble { group with parts := .change :: group.parts } outer rest
  | .opening captures :: rest => assemble (.start captures) (group :: outer) rest
  | .closing :: rest =>
    match outer with
    | [] => .error .unopenedGroup
    | around :: outer' => assemble (around.push (group.close.grouped group.captures)) outer' rest
  | .bar :: rest => assemble { group with branches := group.branch :: group.branches, parts := [] } outer rest
  | .times isLazy low high :: rest =>
    match group.parts with
    | .piece p :: before => assemble { group with parts := .piece (p.repeated isLazy low high) :: before } outer rest
    | _ => .error .missingOperand

/-- How deep a pattern may nest. -/
def maxHeight : Nat := 250

/-- What the text of a pattern writes, however large it is. -/
def readPiece (source : String) : Except Fault Piece := do
  let p ← assemble (.start false) [] (← tokens .initial [] [] source.toList)
  if maxHeight < p.height then throw .nestedTooDeep
  return p

/-- The expression that the text of a pattern writes, put so that it can be matched. -/
def readExpr (source : String) : Except Fault Expr := do
  let p ← readPiece source
  if p.shape.isTooLarge then throw .tooLarge
  return p.expr.relaxed

end Schemata.Pattern
