import Schemata.Compiler.Resolve

/-!
# Compiling descriptions

A sequence that is an invocation is compiled by calling builders, any other sequence item by item, and a mapping field by field. In
a chain each call refines what came before it; what is no call is put in a list with what came before it.

All-falsy arguments count as none. The recursion is on the description alone: a chain hands its parts, never itself, to the calls
it is made of.
-/

namespace Schemata.Compiler

/-- What a compiled argument list passes to a builder: nothing if every item is falsy, else the items; a single term is passed as
it is. -/
def passed : Term → List Term
  | .list items => if items.all Term.isFalsy then [] else items
  | t => [t]

/-- A term put after another in a list. -/
def append : Term → Term → Term
  | .list items, value => .list (items ++ [value])
  | t, value => .list [t, value]

/-- The error that a chain cannot go on with a shape. -/
def noShape (c : Compiler) (found : String) : CompileError :=
  .argument c.shapeMarker (.noShape found)

/-- Go on with a shape: a shape becomes a schema of objects, and a schema with a shape after it gets the fields of the shape. -/
def continueWithShape (c : Compiler) (acc : Term) : Traced Term :=
  match acc with
  | .shape fields => do
    Traced.record (.rootCall Root.object.name 1)
    Traced.ofExcept ((Root.object.build ⟨Root.object.name, [.shape fields]⟩).mapError .build)
  | .list [.schema s, .shape fields] =>
    match Member.named? s.tag Member.shape.name with
    | none => Traced.fail (c.noShape (s.tag.name ++ " schema"))
    | some member => do
      Traced.record (.memberCall Member.shape.name s.tag.name 1)
      Traced.ofExcept (((member.build s ⟨Member.shape.name, [.shape fields]⟩).mapError .build).map .schema)
  | .list [receiver, .shape _] => Traced.fail (c.noShape receiver.kindName)
  | other => Traced.fail (c.noShape other.kindName)

/-- The pattern that a text in the place of one writes. -/
def patternArgument (s : String) : Except CompileError Pattern :=
  (Node.compilePattern s s).mapError fun e => .argument Member.matching.name (.badPattern e)

/-- The error that there is something else in the place of a pattern. -/
def noPattern (found : Node) : CompileError :=
  .argument Member.matching.name (.noPattern found.text)

/-- What the first of some arguments is in the place of a pattern: a text writes one, a number or a truth value never is one, and
anything else is an argument like any other. -/
def leadingPattern? : List Node → Option (Except CompileError Pattern)
  | .str s :: _ => some (patternArgument s)
  | .num x :: _ => some (.error (noPattern (.num x)))
  | .bool b :: _ => some (.error (noPattern (.bool b)))
  | _ => none

mutual

/-- Compile a node. -/
def compile (c : Compiler) (n : Node) : Traced Term :=
  match n with
  | .null => pure (.literal .null)
  | .bool b => pure (.literal (.bool b))
  | .num x => pure (.literal (.num x))
  | .str s => pure (.literal (.str s))
  | .pattern p => pure (.pattern p)
  | .seq items =>
    if Node.isInvocation c.marker items then invoke c items none
    else do return .list (← compileItems c items)
  | .map fields => do return .shape (← compileFields c fields)
termination_by structural n

/-- Compile items one by one. -/
def compileItems (c : Compiler) (items : List Node) : Traced (List Term) :=
  match items with
  | [] => pure []
  | n :: rest => do return (← compile c n) :: (← compileItems c rest)
termination_by structural items

/-- Compile the items after the first. -/
def compileRest (c : Compiler) (items : List Node) : Traced (List Term) :=
  match items with
  | [] => pure []
  | _ :: rest => compileItems c rest
termination_by structural items

/-- Compile fields one by one. -/
def compileFields (c : Compiler) (fields : List (String × Node)) : Traced (List (String × Term)) :=
  match fields with
  | [] => pure []
  | (key, n) :: rest => do return (key, ← compile c n) :: (← compileFields c rest)
termination_by structural fields

/-- Compile the items of an invocation after a term: a chain if a sequence heads them, else the call of the builder that the head
names. A chain begins anew. -/
def invoke (c : Compiler) (items : List Node) (receiver : Option Term) : Traced Term :=
  match items with
  | [] => Traced.fail (.unresolved "[]")
  | .seq first :: rest => do chain c rest 1 (← invoke c first none)
  | name :: raw => do
    let binding ← Traced.ofExcept (c.resolve name receiver)
    Traced.recordIf c.diagnostics (.resolved name.text binding.source binding.name raw.length)
    let args ←
      match if binding.takesPattern then leadingPattern? raw else none with
      | some lead => do
        let p ← Traced.ofExcept lead
        (Term.pattern p :: ·) <$> compileRest c raw
      | none =>
        passed <$> if Node.isInvocation c.marker raw then invoke c raw none else Term.list <$> compileItems c raw
    Traced.ofExcept ((binding.call args).mapError .build)
termination_by structural items

/-- Compile the elements of a chain from a step on, after the term of the steps before it. -/
def chain (c : Compiler) (elements : List Node) (step : Nat) (acc : Term) : Traced Term :=
  match elements with
  | [] => pure acc
  | .seq items :: rest => do
    let acc ← invoke c items (some acc)
    Traced.recordIf c.diagnostics (.step step acc.kindName)
    chain c rest (step + 1) acc
  | .str s :: rest => do
    let acc ← if s = c.shapeMarker then c.continueWithShape acc else pure (append acc (.literal (.str s)))
    Traced.recordIf c.diagnostics (.step step acc.kindName)
    chain c rest (step + 1) acc
  | n :: rest => do
    let acc := append acc (← compile c n)
    Traced.recordIf c.diagnostics (.step step acc.kindName)
    chain c rest (step + 1) acc
termination_by structural elements

end

/-- The description of an object that has to be there, with the given fields. -/
def implicitObject (c : Compiler) (fields : Node) : Node :=
  .seq [.seq [.str (c.marker ++ Root.object.name)], .seq [.str (c.marker ++ Member.required.name)],
    .seq [.str c.shapeMarker, fields]]

/-- Compile a whole description: what is no sequence is read as the fields of an object. An error about names or arguments shows the
description. -/
def transform (c : Compiler) (n : Node) : Traced Term :=
  let described := match n with
    | .seq items => .seq items
    | fields => c.implicitObject fields
  (c.compile described).mapError (.wrap n.text)

end Schemata.Compiler
