import Schemata.Pattern.Shape
import Std.Data.HashMap

/-!
# The size of the machine of an expression

A machine reads the bytes of a text from the first on or from the last on, and every counted repetition is written out in it. It is
put together state by state, and only what it takes is kept of it: the number of its states, and the room of the states and of the
ways between them. The states that read the characters of a set are shared where the same is left to read, forwards, or where the
same has been read, backwards, as far as a table of limited size remembers them.
-/

namespace Schemata.Pattern

open Schemata.Unicode

/-- The room of a state. -/
def stateRoom : Nat := 32

/-- The room of a way from one state to another that reads a byte, where a state has several. -/
def byteRoom : Nat := 8

/-- The room of a way from one state to another that reads nothing, where a state has several. -/
def freeRoom : Nat := 4

/-- The room that a machine may take. -/
def maxRoom : Nat := 10485760

/-- Which way a machine reads. -/
inductive Direction where
  | forward
  | backward
deriving DecidableEq

/-- What is kept of a machine: how many states it has, and the room that it takes. -/
structure Machine where
  states : Nat
  room : Nat

namespace Machine

/-- The machine without states. -/
def empty : Machine := ⟨0, 0⟩

/-- One more state, with ways that take some room. -/
def add (m : Machine) (ways : Nat) : Machine :=
  ⟨m.states + 1, m.room + stateRoom + ways⟩

/-- Ways between states that are there. -/
def connect (m : Machine) (ways : Nat) : Machine :=
  { m with room := m.room + ways }

/-- The machine takes more room than it may. -/
def isFull (m : Machine) : Bool :=
  maxRoom < m.room

/-- Do something so many times, unless the machine is full before. -/
def iterate (step : Machine → Machine) : Nat → Machine → Machine
  | 0, m => m
  | n + 1, m => if m.isFull then m else iterate step n (step m)

end Machine

/-! ## Sets -/

/-- The states made so far for the characters of a set, each in one of a number of places that what it reads determines. A later state
takes the place of an earlier one. -/
structure Memory where
  places : UInt64
  states : Std.HashMap UInt64 (List Nat × Nat)

/-- The place of what a state reads. -/
def Memory.place (memory : Memory) (key : List Nat) : UInt64 :=
  key.foldl (fun mixed n => (mixed ^^^ n.toUInt64) * 1099511628211) 14695981039346656037 % memory.places

/-- A machine to which the characters of a set are added. -/
structure Spelling where
  memory : Memory
  machine : Machine

namespace Spelling

/-- The state that reads something: one that is remembered, or else a new one. -/
def stateOf (w : Spelling) (key : List Nat) (ways : Nat) : Spelling × Nat :=
  let place := w.memory.place key
  let made : Spelling × Nat :=
    (⟨{ w.memory with states := w.memory.states.insert place (key, w.machine.states) }, w.machine.add ways⟩, w.machine.states)
  match w.memory.states[place]? with
  | some (key', n) => if key' = key then (w, n) else made
  | none => made

end Spelling

/-- What may follow each of the ranges that byte ranges begin with; those that begin alike stand side by side. -/
def waysOf : List ByteRanges → List ((Nat × Nat) × List ByteRanges)
  | [] => []
  | [] :: others => waysOf others
  | (first :: more) :: others =>
    match waysOf others with
    | (next, follow) :: rest =>
      if first = next then (first, more :: follow) :: rest else (first, [more]) :: (next, follow) :: rest
    | [] => [(first, [more])]

/-- The state that reads what is left of some characters, of at most so many bytes, up to the state `last`. -/
def Spelling.toRead (last : Nat) : (bytes : Nat) → (left : List ByteRanges) → Spelling → Spelling × Nat
  | 0, _, w => (w, last)
  | bytes + 1, left, w =>
    match waysOf left with
    | [] => (w, last)
    | ways =>
      let (w, key) := ways.foldl (fun (w, key) (range, follow) =>
        let (w, next) := Spelling.toRead last bytes follow w
        (w, next :: range.2 :: range.1 :: key)) (w, [])
      w.stateOf key.reverse (byteRoom * ways.length)

/-- The states that read a character forwards. -/
def Machine.addForward (m : Machine) (ranges : List ByteRanges) : Machine :=
  (Spelling.toRead m.states 4 ranges ⟨⟨10000, ∅⟩, m.add 0⟩).1.machine

/-- The states that read a character backwards. -/
def Machine.addBackward (m : Machine) (ranges : List ByteRanges) : Machine :=
  let last := m.states + 1
  let spelt := ranges.foldl (fun w character =>
    (character.foldl (fun (w, next) range => Spelling.stateOf w [next, range.1, range.2] 0) (w, last)).1)
    (⟨⟨1000, ∅⟩, (m.add 0).add 0⟩ : Spelling)
  spelt.machine.connect (freeRoom * ranges.length)

/-- The states that read a character of a set. -/
def Machine.addSet (direction : Direction) (m : Machine) (s : CharSet) (ranges : List ByteRanges) : Machine :=
  if s.all (·.2 < 128) then (m.add 0).add (byteRoom * s.length)
  else match direction with
    | .forward => m.addForward ranges
    | .backward => m.addBackward ranges

/-! ## Choices between texts -/

/-- Cut a list at what a test finds. -/
def cutAt (test : List Nat → Bool) (words : List (List Nat)) : List (List (List Nat)) :=
  words.foldr (fun word parts =>
    if test word then [] :: parts
    else match parts with
      | [] => [[word]]
      | part :: others => (word :: part) :: others) [[]]

/-- The first bytes of words, each with what is left of the words that begin with it. -/
def byFirst (words : List (List Nat)) : List (List (List Nat)) :=
  (words.filterMap List.head?).eraseDups.map fun first => words.filterMap fun
    | byte :: rest => if byte = first then some rest else none
    | [] => none

/-- The states that read the rest of one of several words, of at most so many bytes. Words that begin alike share states, unless one
that ends there has come between. -/
def Machine.addWords : (bytes : Nat) → (words : List (List Nat)) → Machine → Machine
  | 0, _, m => m
  | bytes + 1, words, m =>
    if words.all List.isEmpty then m
    else
      let ended := (words.take 1).count [] + (words.dropWhile List.isEmpty).count []
      let parts := (cutAt List.isEmpty words).filter (!·.isEmpty)
      let m := parts.foldl (fun m part =>
        let ways := byFirst part
        let m := ways.foldl (fun m rest => Machine.addWords bytes rest m) m
        m.add (if ways.length = 1 then 0 else byteRoom * ways.length)) m
      m.add (freeRoom * (parts.length + ended))

/-- The codes of a shape that is a text. -/
def Shape.text? : Shape → Option (List Nat)
  | .text codes => some codes
  | _ => none

/-- The bytes of a text in the order in which they are read. -/
def bytesIn (direction : Direction) (codes : List Nat) : List Nat :=
  let bytes := codes.flatMap ByteRanges.bytesOf
  match direction with
  | .forward => bytes
  | .backward => bytes.reverse

/-! ## Shapes -/

/-- The states of a repetition, given how the states of what is repeated are added. -/
def Machine.addTimes (m : Machine) (step : Machine → Machine) (isLong : Bool) (low : Nat) (high : Option Nat) : Machine :=
  let fork := 2 * freeRoom
  match low, high with
  | 0, some 1 => (step (m.add fork)).add 0
  | 0, none => if isLong then step (m.add fork) else (((step m).add fork).add fork).add 0
  | low, none => (m.iterate step low).add fork
  | low, some high =>
    if low = high then m.iterate step low
    else (((if low = 0 then m.add 0 else m.iterate step low).add 0).iterate (fun m => step (m.add fork)) (high - low))

namespace Shape

mutual

/-- Add the states of a shape to a machine. -/
def addTo (direction : Direction) (e : Shape) (m : Machine) : Machine :=
  match e with
  | .text codes => (bytesIn direction codes).foldl (fun m _ => m.add 0) m
  | .set s ranges => m.addSet direction s ranges
  | .look _ => m.add 0
  | .capture inner =>
    match direction with
    | .forward => (inner.addTo direction (m.add 0)).add 0
    | .backward => inner.addTo direction m
  | .sequence [] => m.add 0
  | .sequence items => addInOrder direction items m
  | .choice branches =>
    match branches.mapM text? with
    | some texts =>
      let words := texts.map (bytesIn direction)
      Machine.addWords ((words.map List.length).foldl max 0) words (m.add 0)
    | none => (addBranches direction 0 branches m).connect (freeRoom * branches.length)
  | .times _ low high inner =>
    m.addTimes (fun m => inner.addTo direction m) (inner.traits.least?.any (0 < ·)) low high
termination_by structural e

/-- Add the states of shapes that follow one another, in the order in which they are read. -/
def addInOrder (direction : Direction) (items : List Shape) (m : Machine) : Machine :=
  match items with
  | [] => m
  | e :: rest =>
    match direction with
    | .forward => addInOrder direction rest (e.addTo direction m)
    | .backward => e.addTo direction (addInOrder direction rest m)
termination_by structural items

/-- Add the states of branches; after the second, the states where the branches part and meet. -/
def addBranches (direction : Direction) (before : Nat) (branches : List Shape) (m : Machine) : Machine :=
  match branches with
  | [] => m
  | e :: rest =>
    let m := e.addTo direction m
    addBranches direction (before + 1) rest (if before = 1 then (m.add 0).add 0 else m)
termination_by structural branches

end

/-- The room of the machine that searches for what a shape matches. It begins anywhere in a text, unless the shape asks for an end
of it. -/
def room (direction : Direction) (e : Shape) : Nat :=
  match direction with
  | .forward =>
    let m := if e.traits.opens then Machine.empty.add 0 else ((Machine.empty.add (2 * freeRoom)).add 0).add byteRoom
    (((e.addTo .forward (m.add 0)).add 0).add 0).room
  | .backward =>
    let m := if e.traits.closes then Machine.empty.add 0 else ((Machine.empty.add (2 * freeRoom)).add 0).add byteRoom
    ((e.addTo .backward m).add 0).room

/-- A choice between so many texts that they are searched for without a machine. -/
def isWordList : Shape → Bool
  | .choice branches => 3000 ≤ branches.length && branches.all fun e => e.text?.isSome
  | _ => false

/-- The machines of a shape take more room than they may. -/
def isTooLarge (e : Shape) : Bool :=
  !e.isWordList && (maxRoom < e.room .forward || maxRoom < e.room .backward)

end Shape

end Schemata.Pattern
