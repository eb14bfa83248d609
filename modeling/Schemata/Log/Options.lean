import Schemata.Json.Fields
import Schemata.Unicode.Latest

/-!
# Options of the log

What is recorded (a level filter), in which format, where to, and what each line shows. Some of what a line shows when nothing is set
depends on where the program runs and how it was built (`Host`).
-/

namespace Schemata.Log

/-- How a line is written. -/
inductive Format where
  | pretty
  | compact
  | json
deriving DecidableEq

/-- Where lines go. -/
inductive Writer where
  | stderr
  | stdout
deriving DecidableEq

/-- What the defaults depend on: whether the program was built for debugging, and whether standard error is a terminal. -/
structure Host where
  debug : Bool := true
  terminal : Bool := false

/-- What a line shows besides its message. -/
structure Display where
  time : Bool
  source : Bool
  target : Bool
  threadIds : Bool
  colors : Bool
  flatten : Bool
deriving DecidableEq

/-- What can be set about the log. -/
structure Options where
  level : String
  format : Format
  writer : Writer
  display : Display
deriving DecidableEq

/-- There is no format of this name. -/
structure UnknownFormat where
  name : String

/-- What is wrong, in words. -/
def UnknownFormat.message (e : UnknownFormat) : String :=
  "unknown log format '" ++ e.name ++ "'"

namespace Format

/-- Every format. -/
def all : List Format := [.pretty, .compact, .json]

/-- The name of a format. -/
def name : Format → String
  | .pretty => "pretty"
  | .compact => "compact"
  | .json => "json"

/-- The format of a name. -/
def named? (s : String) : Option Format :=
  all.find? (·.name = s)

/-- The format of a name in upper or lower case. -/
def ofText (s : String) : Except UnknownFormat Format :=
  match named? (Unicode.Latest.lowercased s) with
  | some format => .ok format
  | none => .error ⟨Unicode.Latest.lowercased s⟩

/-- A format is found by its name. -/
theorem named?_name (f : Format) : named? f.name = some f := by
  cases f <;> decide

end Format

namespace Writer

/-- Every place that lines can go to. -/
def all : List Writer := [.stderr, .stdout]

/-- The name of the place. -/
def name : Writer → String
  | .stderr => "stderr"
  | .stdout => "stdout"

/-- The place of a name. -/
def named? (s : String) : Option Writer :=
  all.find? (·.name = s)

/-- A place is found by its name. -/
theorem named?_name (w : Writer) : named? w.name = some w := by
  cases w <;> decide

end Writer

namespace Display

/-- What is shown when nothing is set: places in the source by a program built for debugging, colors on a terminal. -/
def default (host : Host := {}) : Display := ⟨true, host.debug, true, false, host.terminal, true⟩

/-- The names of the settings, in order. -/
def names : List String := ["time", "source", "target", "thread_ids", "colors", "flatten"]

/-- The settings that a document makes. -/
def read? (surplus : Json.Surplus) (v : Json) (host : Host := {}) : Option Display := do
  let fields ← v.fields? surplus names
  let shown := fun name byDefault => Json.fieldOr? fields name Json.asBool? byDefault
  let time ← shown "time" (default host).time
  let source ← shown "source" (default host).source
  let target ← shown "target" (default host).target
  let threadIds ← shown "thread_ids" (default host).threadIds
  let colors ← shown "colors" (default host).colors
  let flatten ← shown "flatten" (default host).flatten
  return { time, source, target, threadIds, colors, flatten }

/-- The settings as a document. -/
def toJson (d : Display) : Json :=
  .object [("time", .bool d.time), ("source", .bool d.source), ("target", .bool d.target), ("thread_ids", .bool d.threadIds),
    ("colors", .bool d.colors), ("flatten", .bool d.flatten)]

/-- A switch in a variable of the environment: off when it says so, on whatever else it says. -/
def isOn (value : String) : Bool :=
  value != "0" && value != "false"

/-- Change the settings by variables of the environment. -/
def withVariables (d : Display) (environment : String → Option String) : Display :=
  { d with
    colors := match environment "NO_COLOR" with
      | some value => d.colors && value.isEmpty
      | none => d.colors
    time := ((environment "STENCIL_LOG_TIME").map isOn).getD d.time
    source := ((environment "STENCIL_LOG_SOURCE").map isOn).getD d.source }

end Display

namespace Options

/-- The options when nothing is set. -/
def default (host : Host := {}) : Options := ⟨"info", .compact, .stderr, .default host⟩

/-- For development: everything but traces, spread over lines and in colors. -/
def development (host : Host := {}) : Options :=
  { default host with level := "debug", format := .pretty, display := { Display.default host with colors := true, source := true } }

/-- For production: a document a line, without colors and places in the source. -/
def production (host : Host := {}) : Options :=
  { default host with format := .json, display := { Display.default host with colors := false, source := false } }

/-- The options that a document sets. -/
def read? (surplus : Json.Surplus) (v : Json) (host : Host := {}) : Option Options := do
  let fields ← v.fields? surplus ["level", "format", "writer", "display"]
  let level ← Json.fieldOr? fields "level" Json.asText? (default host).level
  let format ← Json.fieldOr? fields "format" (fun v => v.asWord? >>= Format.named?) (default host).format
  let writer ← Json.fieldOr? fields "writer" (fun v => v.asWord? >>= Writer.named?) (default host).writer
  let display ← Json.fieldOr? fields "display" (Display.read? surplus · host) (default host).display
  return { level, format, writer, display }

/-- The options as a document. -/
def toJson (o : Options) : Json :=
  .object [("level", .str o.level), ("format", .str o.format.name), ("writer", .str o.writer.name),
    ("display", o.display.toJson)]

/-- The options that variables of the environment set. A format of an unknown name is compact. -/
def ofVariables (environment : String → Option String) (host : Host := {}) : Options where
  level := ((environment "STENCIL_LOG").or (environment "RUST_LOG")).getD (default host).level
  format := match environment "STENCIL_LOG_FORMAT" with
    | some name => match Format.ofText name with
      | .ok format => format
      | .error _ => .compact
    | none => (default host).format
  writer := (default host).writer
  display := (default host).display.withVariables environment

end Options

end Schemata.Log
