import Schemata.Compiler.Resolve
import Schemata.Json.Fields

/-!
# Options of a compiler

The one option is the marker of names. Any text but the empty one will do: the empty text is part of every text, and so would mark
everything.
-/

namespace Schemata

/-- What can be set about a compiler. -/
structure CompilerOptions where
  marker : String
deriving DecidableEq

namespace CompilerOptions

/-- The options when nothing is set. -/
def default : CompilerOptions := ⟨"stencil."⟩

/-- The options that a document sets. -/
def read? (surplus : Json.Surplus) (v : Json) : Option CompilerOptions := do
  let fields ← v.fields? surplus ["marker"]
  let marker ← Json.fieldOr? fields "marker" Json.asText? default.marker
  return ⟨marker⟩

/-- The options as a document. -/
def toJson (options : CompilerOptions) : Json :=
  .object [("marker", .str options.marker)]

/-- The options that a variable of the environment sets: an empty one counts as unset. -/
def ofVariable : Option String → CompilerOptions
  | some marker => if marker = "" then default else ⟨marker⟩
  | none => default

/-- The name that continues a chain with a shape. -/
def shapeMarker (options : CompilerOptions) : String :=
  options.marker ++ "shape"

/-- The options will do. -/
def validate (options : CompilerOptions) : Except CompileError Unit :=
  if options.marker = "" then .error .emptyMarker else .ok ()

/-- The compiler with these options. -/
def build (options : CompilerOptions) (registry : Registry) (diagnostics : Bool) : Except CompileError Compiler :=
  if h : options.marker = "" then .error .emptyMarker else .ok ⟨options.marker, registry, diagnostics, h⟩

end CompilerOptions

end Schemata
