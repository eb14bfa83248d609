import Schemata.Compiler.Classify
import Schemata.Compiler.Trace
import Schemata.Library.Member
import Schemata.Library.Root
import Schemata.Registry

/-!
# Resolving names

A name is looked up as it stands among the custom builders; then, if the marker occurs in it, what follows its first occurrence is
looked up among the custom builders, the members of the schema before it, and the root builders.
-/

namespace Schemata

/-- What descriptions are compiled with: the marker of names, custom builders, and whether each step is recorded. -/
structure Compiler where
  marker : String
  registry : Registry
  diagnostics : Bool
  marker_ne : marker ≠ ""

/-- A builder that a name stands for. -/
inductive Binding where
  | custom (name : String) (builder : CustomBuilder)
  | member (m : Member) (receiver : Schema)
  | root (r : Root)

namespace Binding

/-- The name of the builder, without the marker. -/
def name : Binding → String
  | .custom n _ => n
  | .member m _ => m.name
  | .root r => r.name

/-- Where the builder comes from. -/
def source : Binding → Source
  | .custom _ _ => .custom
  | .member _ _ => .member
  | .root _ => .root

/-- The builder is one of the library. -/
def isLibrary (b : Binding) : Bool :=
  b.source != .custom

/-- The builder takes a pattern as its first argument. -/
def takesPattern : Binding → Bool
  | .member .matching _ => true
  | _ => false

/-- Call the builder. -/
def call (b : Binding) (items : List Term) : Except BuildError Term :=
  match b with
  | .custom _ builder => builder items
  | .member m receiver => (m.build receiver ⟨m.name, items⟩).map .schema
  | .root r => r.build ⟨r.name, items⟩

end Binding

/-- The word for where a builder comes from, and its name, as they are shown. -/
def Source.text (source : Source) (name : String) : String :=
  let word := match source with
    | .custom => "Custom"
    | .member => "Member"
    | .root => "Root"
  word ++ "(" ++ Text.quoted name ++ ")"

namespace Compiler

/-- The name that continues a chain with a shape. -/
def shapeMarker (c : Compiler) : String :=
  c.marker ++ "shape"

/-- The member builder that a term has under a name, with the schema it refines. -/
def memberOf? (receiver : Option Term) (name : String) : Option Binding :=
  match receiver with
  | some (.schema s) => (Member.named? s.tag name).map (.member · s)
  | _ => none

/-- The builder that a name stands for after a term. -/
def lookup? (c : Compiler) (name : String) (receiver : Option Term) : Option Binding :=
  match c.registry.get? name with
  | some builder => some (.custom name builder)
  | none =>
    match Text.cutAt? c.marker name with
    | none => none
    | some (_, bare) =>
      match c.registry.get? bare with
      | some builder => some (.custom bare builder)
      | none => memberOf? receiver bare <|> (Root.named? bare).map .root

/-- The node that stands for a name: the first item of a sequence, or the node itself. -/
def nameSlot : Node → Node
  | .seq (first :: _) => first
  | n => n

/-- The builder that a node names after a term. -/
def resolve (c : Compiler) (name : Node) (receiver : Option Term) : Except CompileError Binding :=
  match nameSlot name with
  | .str s => (c.lookup? s receiver).elim (.error (.unresolved s)) .ok
  | n => .error (.unresolved n.text)

end Compiler

end Schemata
