import Schemata.Pattern.Expr
import Schemata.Unicode.ByteRanges

/-!
# Shapes of expressions

A shape is what of an expression the size of its machine depends on, brought into a simple form while it is put together: texts that
follow one another are one text, a choice between characters is a set, and what all branches of a choice begin with stands before it.
Groups that record what they match, and whether a repetition is lazy, count here, although they do not count for what matches.
-/

namespace Schemata.Pattern

open Schemata.Unicode

/-- The shape of an expression. A text is not empty; the set of a shape has its byte ranges with it. -/
inductive Shape where
  | text (codes : List Nat)
  | set (s : CharSet) (ranges : List ByteRanges)
  | look (assertion : Look)
  | capture (inner : Shape)
  | sequence (items : List Shape)
  | choice (branches : List Shape)
  | times (isLazy : Bool) (low : Nat) (high : Option Nat) (inner : Shape)

/-- What a shape says about the texts that it matches: they are all empty (`isHollow`), they have at least some length, unless there
are none (`least?`), they stand at the start or the end of what is searched (`opens`, `closes`). -/
structure Traits where
  isHollow : Bool
  least? : Option Nat
  opens : Bool
  closes : Bool

namespace Traits

/-- The traits of one thing after another. What one thing asks for still holds of the whole while only hollow things are before it,
or after it. -/
def sequence (all : List Traits) : Traits where
  isHollow := all.all (·.isHollow)
  least? := all.foldr (fun t least => return (← t.least?) + (← least)) (some 0)
  opens := all.foldr (fun t rest => t.opens || (t.isHollow && rest)) false
  closes := all.foldl (fun rest t => t.closes || (t.isHollow && rest)) false

/-- The traits of a choice. -/
def choice (all : List Traits) : Traits where
  isHollow := all.all (·.isHollow)
  least? := (all.mapM fun (t : Traits) => t.least?).bind List.min?
  opens := !all.isEmpty && all.all (·.opens)
  closes := !all.isEmpty && all.all (·.closes)

/-- The traits of a repetition. -/
def times (low : Nat) (t : Traits) : Traits where
  isHollow := t.isHollow
  least? := t.least?.map (· * low)
  opens := 0 < low && t.opens
  closes := 0 < low && t.closes

end Traits

namespace Shape

mutual

/-- The traits of a shape. -/
def traits : Shape → Traits
  | .text codes => ⟨false, some codes.length, false, false⟩
  | .set s _ => ⟨false, if s.isEmpty then none else some 1, false, false⟩
  | .look assertion => ⟨true, some 0, assertion = .textStart, assertion = .textEnd⟩
  | .capture inner => inner.traits
  | .sequence items => .sequence (traitsOfAll items)
  | .choice branches => .choice (traitsOfAll branches)
  | .times _ low _ inner => .times low inner.traits
termination_by structural e => e

/-- The traits of several shapes. -/
def traitsOfAll : List Shape → List Traits
  | [] => []
  | e :: rest => e.traits :: traitsOfAll rest
termination_by structural es => es

end

mutual

/-- Two shapes are the same; a group that records what it matches is the same as no other. -/
def same : Shape → Shape → Bool
  | .text a, .text b => a == b
  | .set s _, .set t _ => s = t
  | .look a, .look b => a = b
  | .sequence as, .sequence bs => sameAll as bs
  | .choice as, .choice bs => sameAll as bs
  | .times isLazy low high a, .times isLazy' low' high' b => isLazy == isLazy' && low == low' && high == high' && same a b
  | _, _ => false
termination_by structural a => a

/-- Two runs of shapes are the same. -/
def sameAll : List Shape → List Shape → Bool
  | [], [] => true
  | a :: as, b :: bs => same a b && sameAll as bs
  | _, _ => false
termination_by structural as => as

end

mutual

/-- The number of parts of a shape. -/
def size : Shape → Nat
  | .text _ | .set _ _ | .look _ => 1
  | .capture inner => inner.size + 1
  | .sequence items => sizeOfAll items + 1
  | .choice branches => sizeOfAll branches + 1
  | .times _ _ _ inner => inner.size + 1
termination_by structural e => e

/-- The number of parts of several shapes. -/
def sizeOfAll : List Shape → Nat
  | [] => 0
  | e :: rest => e.size + sizeOfAll rest
termination_by structural es => es

end

/-! ## Putting shapes together -/

/-- The shape that matches the empty text. -/
def empty : Shape := .sequence []

/-- The shape of a set of characters; a set of one character is a text. -/
def ofSet (s : CharSet) : Shape :=
  match s with
  | [(low, high)] => if low = high then .text [low] else .set s (ByteRanges.ofSet s)
  | s => .set s (ByteRanges.ofSet s)

/-- The parts of a shape that follow one another. -/
def items : Shape → List Shape
  | .sequence items => items
  | e => [e]

/-- The shapes between which a shape is a choice. -/
def branches : Shape → List Shape
  | .choice branches => branches
  | e => [e]

/-- Make one text of the texts that follow one another. -/
def joinTexts : List Shape → List Shape
  | [] => []
  | .text codes :: rest =>
    match joinTexts rest with
    | .text more :: others => .text (codes ++ more) :: others
    | others => .text codes :: others
  | e :: rest => e :: joinTexts rest

/-- One shape after another. -/
def inOrder (shapes : List Shape) : Shape :=
  match joinTexts (shapes.flatMap items) with
  | [e] => e
  | parts => .sequence parts

/-- How many shapes two runs begin with alike. -/
def sharedLength : List Shape → List Shape → Nat
  | a :: as, b :: bs => if same a b then sharedLength as bs + 1 else 0
  | _, _ => 0

/-- The parts of a shape that is a sequence. -/
def parts? : Shape → Option (List Shape)
  | .sequence parts => some parts
  | _ => none

/-- The character of a shape that is a text of one. -/
def single? : Shape → Option Nat
  | .text [code] => some code
  | _ => none

/-- The set of a shape that is one. -/
def set? : Shape → Option CharSet
  | .set s _ => some s
  | _ => none

/-- A choice between shapes, from which shared beginnings are taken so many times at most. -/
def choiceWithin (rounds : Nat) (shapes : List Shape) : Shape :=
  let shapes := shapes.flatMap branches
  match shapes.mapM single?, shapes.mapM set?, shapes.mapM parts?, rounds, shapes with
  | _, _, _, _, [e] => e
  | some codes, _, _, _, _ => ofSet (CharSet.ofRanges (codes.map fun code => (code, code)))
  | _, some sets, _, _, _ => ofSet (CharSet.ofRanges sets.flatten)
  | _, _, some (first :: others), rounds + 1, _ =>
    let shared := (others.map (sharedLength first)).foldl min first.length
    if shared = 0 then .choice shapes
    else
      let endings := (first :: others).map fun parts => inOrder (parts.drop shared)
      inOrder (first.take shared ++ [choiceWithin rounds endings])
  | _, _, _, _, _ => .choice shapes

/-- A choice between shapes. -/
def choose (shapes : List Shape) : Shape :=
  choiceWithin (sizeOfAll shapes) shapes

/-- A repetition; what is hollow need not be repeated more than once. -/
def repeated (isLazy : Bool) (low : Nat) (high : Option Nat) (e : Shape) : Shape :=
  let isHollow := e.traits.isHollow
  let low := if isHollow then min low 1 else low
  let high := if isHollow then some (min (high.getD 1) 1) else high
  if high = some 0 then empty else if low = 1 ∧ high = some 1 then e else .times isLazy low high e

end Shape

end Schemata.Pattern
