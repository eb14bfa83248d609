import Schemata.CommandLine.Request
import Schemata.Compiler.Compile
import Schemata.Json.Reader
import Schemata.Log.Record
import Schemata.Schema.Check
import Schemata.Schema.Describe
import Schemata.Settings.Load
import Schemata.Toml.Document

/-!
# Carrying out a request

A session reads files and standard input, writes what it finds to the console, and ends with an exit code or a failure. `run` is
the whole program, as a function of what the outside world holds and of the host it runs on.
-/

namespace Schemata.CommandLine

/-- What stands under a path: nothing, a directory, or a file, whose text may not be readable. -/
inductive Entry where
  | absent
  | directory
  | file (text : Option String)

/-- What a session finds outside: files, standard input, and the environment. -/
structure World where
  entry : String → Entry
  input : Option String
  environment : Environment

/-- Why a session cannot go on. -/
inductive Failure where
  | noConfig (path : String)
  | settings (e : SettingsError)
  | log
  | unreadable (path : String)
  | unreadableInput
  | notJson (path : String)
  | undecodable (path : String) (e : DecodeError)
  | uncompilable (path : String) (e : CompileError)
  | noValidator (path : String)

namespace Failure

/-- What is wrong, in words. -/
def message : Failure → String
  | .noConfig path => "config file " ++ path ++ " does not exist"
  | .settings e => e.message
  | .log => "failed to initialize logging"
  | .unreadable path => "failed to read " ++ path
  | .unreadableInput => "failed to read stdin"
  | .notJson path => path ++ " is not valid JSON"
  | .undecodable path _ => "failed to decode " ++ path
  | .uncompilable path _ => "failed to compile " ++ path
  | .noValidator path => path ++ " does not describe a validator"

end Failure

/-- The console of a session: what has been written to it, and what is left of the input. -/
structure Console where
  out : String
  err : String
  input : Option String

/-- A part of a session. What it has written stays written when it fails. -/
abbrev Session (α : Type) := ExceptT Failure (StateM Console) α

/-- The log of a session: its options, and what it lets through. -/
structure Journal where
  options : Log.Options
  filter : Log.Filter

namespace Session

/-- Write a line. -/
def say (line : String) : Session Unit :=
  modify fun c => { c with out := c.out ++ line ++ "\n" }

/-- Put a record into the log, if the filter lets it through. -/
def note (journal : Journal) (r : Log.Record) : Session Unit :=
  if r.passes journal.filter then
    modify fun c =>
      let line := r.line journal.options ++ "\n"
      match journal.options.writer with
      | .stdout => { c with out := c.out ++ line }
      | .stderr => { c with err := c.err ++ line }
  else pure ()

/-- Go on with the value of a result, or fail. -/
def settle {α : Type} (result : Except Failure α) : Session α :=
  match result with
  | .ok a => pure a
  | .error e => throw e

/-- Read standard input to its end; what has been read is gone. -/
def takeInput : Session String := do
  match (← get).input with
  | some text =>
    modify fun c => { c with input := some "" }
    return text
  | none => throw .unreadableInput

end Session

/-! ## Records -/

/-- A natural number as the field of a record. -/
def countField (n : Nat) : Json :=
  if h : n < 2 ^ 64 then .num (.ofNat n h) else .null

/-- The record of what happened in a compilation. -/
def eventRecord : Event → Log.Record
  | .resolved name source builder arguments =>
    ⟨.debug, "stencil_compiler::invocation", "resolved invocation",
      [("name", .str name), ("builder", .str builder), ("binding", .str (source.text builder)), ("args", countField arguments)]⟩
  | .step index result =>
    ⟨.debug, "stencil_compiler::chain", "chain step", [("step", countField index), ("result", .str result)]⟩
  | .rootCall root arguments =>
    ⟨.trace, "stencil_validator::library", "calling root builder", [("root", .str root), ("args", countField arguments)]⟩
  | .memberCall member kind arguments =>
    ⟨.trace, "stencil_validator::library", "calling member builder",
      [("member", .str member), ("kind", .str kind), ("args", countField arguments)]⟩

/-! ## Settings -/

/-- Where the configuration is read from when no path is given. -/
def defaultConfig : String := "stencil.toml"

/-- The document of a configuration file, if there is a file. -/
def configDocument (path : String) : Entry → Except Failure (Option Json)
  | .file text =>
    match text.bind Toml.read? with
    | some v => .ok (some v)
    | none => .error (.settings .malformed)
  | .directory => .ok none
  | .absent => .error (.noConfig path)

/-- The path and the document of the configuration of a request. -/
def configOf (w : World) (flags : Flags) : Except Failure (Option (String × Option Json)) :=
  match flags.config with
  | some path => (configDocument path (w.entry path)).map fun v => some (path, v)
  | none =>
    match w.entry defaultConfig with
    | .absent => .ok none
    | e => (configDocument defaultConfig e).map fun v => some (defaultConfig, v)

/-! ## Commands -/

/-- A path that stands for standard input: a single hyphen; separators after it do not count, nor do dots between them. -/
def isInputPath (path : String) : Bool :=
  match Text.segments '/' path with
  | first :: rest => first == "-" && rest.all fun part => part == "" || part == "."
  | [] => false

/-- The document at a path. -/
def readDocument (w : World) (path : String) : Session Json := do
  let text ←
    if isInputPath path then Session.takeInput
    else
      match w.entry path with
      | .file (some text) => pure text
      | _ => throw (.unreadable path)
  match Json.read? text with
  | some v => return v
  | none => throw (.notJson path)

/-- The term that the description at a path compiles to. -/
def readSchema (w : World) (journal : Journal) (c : Compiler) (path : String) : Session Term := do
  let v ← readDocument w path
  let node ← Session.settle ((Node.decode v).mapError (.undecodable path))
  Session.note journal ⟨.info, "stencil::commands", "compiling schema", [("schema", .str path)]⟩
  let compiled := c.transform node
  for e in compiled.events do
    Session.note journal (eventRecord e)
  Session.settle (compiled.result.mapError (.uncompilable path))

/-- What is printed about a term. -/
def describeTerm : Term → Json
  | .schema s => s.describe
  | t => .object [("kind", .str t.kindName)]

/-- The violations that a report shows: those without others below them. -/
def reported (e : Violation) : List Violation :=
  e.flatten.filter fun e => !e.hasNested

/-- The line of a report about a violation. -/
def reportLine (e : Violation) : String :=
  "  " ++ e.field.getD "<root>" ++ ": " ++ e.message ++ " (" ++ e.code ++ ")"

/-- Check one document, and tell whether it will do. -/
def checkDocument (w : World) (journal : Journal) (s : Schema) (path : String) : Session Bool := do
  let v ← readDocument w path
  match s.check (some v) with
  | none =>
    Session.say (path ++ ": ok")
    return true
  | some e =>
    Session.say (path ++ ": invalid")
    let leaves := reported e
    Session.note journal ⟨.debug, "stencil::commands", "document rejected",
      [("document", .str path), ("errors", countField leaves.length)]⟩
    for leaf in leaves do
      Session.say (reportLine leaf)
    return false

/-- Print the description of a schema. -/
def compileCommand (w : World) (journal : Journal) (c : Compiler) (path : String) : Session Nat := do
  let t ← readSchema w journal c path
  Session.say (describeTerm t).indented
  return 0

/-- Check documents against a schema. -/
def checkCommand (w : World) (journal : Journal) (c : Compiler) (path : String) (documents : List String) : Session Nat := do
  match ← readSchema w journal c path with
  | .schema s =>
    let verdicts ← documents.mapM (checkDocument w journal s)
    let failures := verdicts.count false
    Session.note journal ⟨.info, "stencil::commands", "check finished",
      [("documents", countField documents.length), ("failures", countField failures)]⟩
    return if failures = 0 then 0 else 1
  | _ => throw (.noValidator path)

/-- Carry out a request, and give the exit code. -/
def Request.perform (host : Log.Host) (w : World) (r : Request) : Session Nat := do
  let config ← Session.settle (configOf w r.flags)
  let settings ← Session.settle
    ((Settings.load host (config.bind Prod.snd) w.environment r.flags.marker r.flags.logLevel).mapError .settings)
  let filter ← Session.settle ((Log.Filter.read? settings.log.level).elim (.error .log) .ok)
  let journal : Journal := ⟨settings.log, filter⟩
  Session.note journal ⟨.debug, "stencil_log::builder", "logger initialized",
    [("level", .str settings.log.level), ("format", .str settings.log.format.name)]⟩
  match config with
  | some (path, _) => Session.note journal ⟨.debug, "stencil", "loaded configuration file", [("config", .str path)]⟩
  | none => pure ()
  let compiler ← Session.settle
    ((settings.compiler.build .empty r.flags.diagnostics).mapError fun e => .settings (.compiler e))
  Session.note journal ⟨.debug, "stencil_compiler::compiler", "built schema compiler",
    [("marker", .str compiler.marker), ("custom_builders", countField compiler.registry.size)]⟩
  match r.command with
  | .compile schema => compileCommand w journal compiler schema
  | .check schema documents => checkCommand w journal compiler schema documents

/-- How a session ends: its exit code, what it has written, and the failure that ended it. -/
structure Outcome where
  code : Nat
  out : String
  err : String
  failure : Option Failure

/-- Carry out the command line of these words. -/
def run (w : World) (words : List String) (host : Log.Host := {}) : Outcome :=
  match Request.read? words with
  | none => ⟨2, "", "", none⟩
  | some r =>
    match ((r.perform host w).run).run ⟨"", "", w.input⟩ with
    | (.ok code, console) => ⟨code, console.out, console.err, none⟩
    | (.error e, console) => ⟨1, console.out, console.err, some e⟩

end Schemata.CommandLine
