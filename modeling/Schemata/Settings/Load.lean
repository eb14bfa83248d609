import Schemata.Compiler.Options
import Schemata.Json.Overlay
import Schemata.Log.Options
import Schemata.Settings.Variable

/-!
# Settings in layers

The settings come from four layers, each over the one before it: the defaults, a configuration file, variables of the environment,
and flags. The first three are laid over each other key by key before they are read, so a setting of the wrong form does no harm
when another lies over it. Flags replace what has been read.
-/

namespace Schemata

/-- The variables of the environment. -/
structure Environment where
  entries : List (String × String)

/-- The value of a variable; its name may be written in upper or lower case, and with blanks around it. -/
def Environment.value? (e : Environment) (name : String) : Option String :=
  let fold := fun (s : String) => String.ofList ((Settings.trimmed s.toList).map Char.toLower)
  (e.entries.reverse.find? fun entry => fold entry.1 = fold name).map Prod.snd

/-- Everything that can be set. -/
structure Settings where
  compiler : CompilerOptions
  log : Log.Options
deriving DecidableEq

/-- Why settings cannot be used: one of them has the wrong form, or they make no compiler. -/
inductive SettingsError where
  | malformed
  | compiler (e : CompileError)

/-- What is wrong, in words. -/
def SettingsError.message : SettingsError → String
  | .malformed => "invalid configuration"
  | .compiler _ => "invalid compiler configuration"

namespace Settings

/-- The settings when nothing is set. -/
def default (host : Log.Host) : Settings :=
  ⟨.default, { Log.Options.default host with level := "warn" }⟩

/-- The settings as a document. -/
def toJson (s : Settings) : Json :=
  .object [("compiler", s.compiler.toJson), ("log", s.log.toJson)]

/-- The settings that a document makes. -/
def read? (host : Log.Host) (v : Json) : Option Settings := do
  let fields ← v.fields? .ignored ["compiler", "log"]
  let compiler ← Json.fieldOr? fields "compiler" (CompilerOptions.read? .ignored) (default host).compiler
  let log ← Json.fieldOr? fields "log" (Log.Options.read? .ignored · host) (default host).log
  return { compiler, log }

/-- The variables that make settings, each with the path of its setting, in the order in which they are laid over each other. -/
def variablePaths : List (String × List String) :=
  [("RUST_LOG", ["log", "level"]), ("STENCIL_LOG", ["log", "level"]), ("STENCIL_LOG_FORMAT", ["log", "format"]),
    ("STENCIL_MARKER", ["compiler", "marker"])]

/-- Lay a variable over a document, if it is set. -/
def layVariable (e : Environment) (v : Json) (entry : String × List String) : Json :=
  match e.value? entry.1 with
  | some text => (Json.nest entry.2 (variableValue text)).overlay v
  | none => v

/-- The defaults with a configuration file and the environment over them, as a document. -/
def layered (host : Log.Host) (file : Option Json) (e : Environment) : Json :=
  variablePaths.foldl (layVariable e) (file.elim (default host).toJson fun v => v.overlay (default host).toJson)

/-- Replace settings by flags. -/
def withFlags (s : Settings) (marker level : Option String) : Settings where
  compiler := { s.compiler with marker := marker.getD s.compiler.marker }
  log := { s.log with level := level.getD s.log.level }

/-- The settings that a configuration file, the environment and flags make, over the defaults of a host. -/
def load (host : Log.Host) (file : Option Json) (e : Environment) (marker level : Option String) :
    Except SettingsError Settings :=
  match read? host (layered host file e) with
  | none => .error .malformed
  | some s =>
    let s := s.withFlags marker level
    match s.compiler.validate with
    | .ok () => .ok s
    | .error e => .error (.compiler e)

end Settings

end Schemata
