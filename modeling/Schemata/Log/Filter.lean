import Schemata.Json.Numeral
import Schemata.Pattern
import Schemata.Unicode.Latest
import Schemata.Text.Segments

/-!
# Level filters

A filter is a list of directives with commas between them. A directive names a target, a span, fields, or nothing at all, and the
level up to which what it names is let through: `warn`, `reader=debug`, `reader[open]=trace`. Of the directives that apply to a
record the most specific one decides.
-/

namespace Schemata.Log

/-- How grave a record is. -/
inductive Level where
  | error
  | warn
  | info
  | debug
  | trace
deriving DecidableEq

namespace Level

/-- The levels, from the gravest on. -/
def all : List Level := [.error, .warn, .info, .debug, .trace]

/-- The number of a level. -/
def rank : Level → Nat
  | .error => 1
  | .warn => 2
  | .info => 3
  | .debug => 4
  | .trace => 5

/-- The name of a level. -/
def name : Level → String
  | .error => "ERROR"
  | .warn => "WARN"
  | .info => "INFO"
  | .debug => "DEBUG"
  | .trace => "TRACE"

end Level

/-- Up to which level records are let through; `0` lets none through. -/
abbrev Ceiling := Nat

namespace Ceiling

/-- Everything is let through. -/
def trace : Ceiling := Level.trace.rank

/-- The number that a numeral writes, with a plus sign or none. -/
def numeral? (s : List Char) : Option Nat :=
  let digits := match s with
    | '+' :: rest => rest
    | s => s
  if digits ≠ [] ∧ digits.all Char.isDigit then some (digits.foldl (fun n d => n * 10 + (d.toNat - '0'.toNat)) 0) else none

/-- The ceiling that a word writes: the name of a level, or `off`, in upper or lower case. -/
def ofWord? (s : List Char) : Option Ceiling :=
  let word := String.ofList (s.map Char.toUpper)
  if word = "OFF" then some 0 else (Level.all.find? (·.name = word)).map Level.rank

/-- The ceiling that a text writes. -/
def read? (s : List Char) : Option Ceiling :=
  ((numeral? s).filter (· ≤ trace)).or (ofWord? s)

end Ceiling

/-- One part of a filter. -/
structure Directive where
  target : Option String
  span : Option String
  fields : List (String × Bool)
  ceiling : Ceiling

namespace Directive

/-- What a directive is being read as: what names it, a span, a field, what follows the fields or the span, or its level. -/
inductive Place where
  | start
  | head (start : Nat)
  | span (start : Nat)
  | field (start : Nat)
  | fields
  | named
  | level (start : Nat)

/-- A part of a text between two places. -/
def slice (s : List Char) (start finish : Nat) : List Char :=
  (s.drop start).take (finish - start)

/-- The ceiling after the equals sign: everything if there is none. -/
def ceilingOf? (s : List Char) : Option Ceiling :=
  if s = [] then some .trace else Ceiling.read? s

/-- Digits with a point among them or none, and perhaps an exponent. -/
def isDecimal (s : List Char) : Bool :=
  let whole := s.takeWhile Char.isDigit
  let afterWhole := s.dropWhile Char.isDigit
  let (fraction, rest) := match afterWhole with
    | '.' :: more => (more.takeWhile Char.isDigit, more.dropWhile Char.isDigit)
    | more => ([], more)
  !(whole ++ fraction).isEmpty && match rest with
    | [] => true
    | mark :: exponent => (mark == 'e' || mark == 'E') && (Numeral.exponent? exponent).isSome

/-- A number: a decimal, an infinity or what is no number, with a sign or none. -/
def isNumber (s : List Char) : Bool :=
  let magnitude := match s with
    | '+' :: rest | '-' :: rest => rest
    | s => s
  isDecimal magnitude || ["inf", "infinity", "nan"].contains (String.ofList (magnitude.map Char.toLower))

/-- A pattern by which the values of a field can be searched: one that asks for words only of Latin letters. -/
def isSearchable (source : String) : Bool :=
  match Pattern.readPiece source with
  | .ok p => p.expr.looks.all fun look => look.word?.all (· == Pattern.latinWord)
  | .error _ => false

/-- A value that the values of a field can be compared with: a number or a pattern. -/
def isComparable (value : List Char) : Bool :=
  isNumber value || isSearchable (String.ofList value)

/-- A field: its name, and whether a value is asked for. -/
def field? (s : List Char) : Option (String × Bool) :=
  match Text.segmentsOf '=' s with
  | name :: value :: _ => if isComparable value then some (String.ofList name, true) else none
  | _ => if s = [] then none else some (String.ofList s, false)

/-- Whether a directive can start with a character, other than the bracket of a span. -/
def isStart (c : Char) : Bool :=
  c == '-' || c == ':' || c == '_' || Unicode.Latest.alphabetic.contains c || Unicode.Latest.numeric.contains c

/-- Read one character more of a directive. -/
def step (s : List Char) (i : Nat) (c : Char) (place : Place) (d : Directive) : Option (Place × Directive) :=
  match place with
  | .start => if c = '[' then some (.span (i + 1), d) else if isStart c then some (.head i, d) else none
  | .head start =>
    let target := some (String.ofList (slice s start i))
    if c = '=' then some (.level (i + 1), { d with target })
    else if c = '[' then some (.span (i + 1), { d with target })
    else some (.head start, d)
  | .span start =>
    let name := slice s start i
    if c = ']' then some (.named, { d with span := some (String.ofList name) })
    else if c = '{' then some (.field (i + 1), { d with span := if name = [] then none else some (String.ofList name) })
    else some (.span start, d)
  | .field start =>
    if c = '}' then (field? (slice s start i)).map fun field => (.fields, { d with fields := d.fields ++ [field] })
    else some (.field start, d)
  | .fields => if c = ']' then some (.named, d) else none
  | .named => if c = '=' then some (.level (i + 1), d) else none
  | .level start => some (.level start, d)

/-- Read the characters of a directive from a place on. -/
def steps (s : List Char) (i : Nat) (place : Place) (d : Directive) : List Char → Option (Place × Directive)
  | [] => some (place, d)
  | c :: rest => do
    let (place, d) ← step s i c place d
    steps s (i + 1) place d rest

/-- A directive read to its end. A lone word that is no level is a target. -/
def finish (s : List Char) (place : Place) (d : Directive) : Option Directive :=
  match place with
  | .head start =>
    match Ceiling.read? (s.drop start) with
    | some ceiling => some { d with ceiling }
    | none => some { d with target := some (String.ofList (s.drop start)) }
  | .level start => (ceilingOf? (s.drop start)).map fun ceiling => { d with ceiling }
  | .named => some d
  | _ => none

/-- The directive that a text writes. Blanks around it are not read, but the places found in what is left are places of the text
as it stands. -/
def read? (s : List Char) : Option Directive := do
  let blank := Unicode.whiteSpace.contains
  let core := ((s.dropWhile blank).reverse.dropWhile blank).reverse
  let (place, d) ← steps s 0 .start ⟨none, none, [], .trace⟩ core
  finish s place d

/-- A directive that applies whatever span a record is in, and whatever its fields hold. -/
def isStatic (d : Directive) : Bool :=
  d.span.isNone && d.fields.all fun field => !field.2

/-- A directive applies to the records of a target that have given fields. -/
def appliesTo (d : Directive) (target : String) (fields : List String) : Bool :=
  (match d.target with
    | some start => start.toList.isPrefixOf target.toList
    | none => true)
  && d.fields.all fun field => fields.contains field.1

/-- How specific a directive is: by the length of its target, then by the number of its fields. -/
def weight (d : Directive) : Nat × Nat :=
  (d.target.elim 0 fun target => target.utf8ByteSize + 1, d.fields.length)

/-- A directive comes before another. -/
def isBefore (d e : Directive) : Bool :=
  if d.weight.1 ≠ e.weight.1 then e.weight.1 < d.weight.1
  else if d.weight.2 ≠ e.weight.2 then e.weight.2 < d.weight.2
  else e.fields.map Prod.fst < d.fields.map Prod.fst

end Directive

/-- The directives of a filter, the most specific first. -/
structure Filter where
  directives : List Directive

namespace Filter

/-- Put a directive among others. It replaces one that names the same. -/
def place (d : Directive) : List Directive → List Directive
  | [] => [d]
  | e :: rest =>
    if d.target = e.target ∧ d.fields.map Prod.fst = e.fields.map Prod.fst then d :: rest
    else if d.isBefore e then d :: e :: rest
    else e :: place d rest

/-- The filter that a text writes. One without directives lets errors through. -/
def read? (s : String) : Option Filter := do
  let parts := (Text.segmentsOf ',' s.toList).filter (· ≠ [])
  let directives ← parts.mapM Directive.read?
  if directives.isEmpty then return ⟨[⟨none, none, [], Level.error.rank⟩]⟩
  else return ⟨(directives.filter Directive.isStatic).foldl (fun placed d => place d placed) []⟩

/-- A record of a level and target, with given fields, is let through. -/
def allows (f : Filter) (level : Level) (target : String) (fields : List String) : Bool :=
  match f.directives.find? (·.appliesTo target fields) with
  | some d => level.rank ≤ d.ceiling
  | none => false

end Filter

end Schemata.Log
