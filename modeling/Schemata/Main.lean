import Schemata.CommandLine.Session

/-!
# The program

Gathers what a session needs from outside, runs it, and shows what it has written.
-/

namespace Schemata.CommandLine

/-- The paths that a session may read. -/
def Request.paths (r : Request) : List String :=
  r.flags.config.getD defaultConfig :: match r.command with
    | .compile schema => [schema]
    | .check schema documents => schema :: documents

/-- What stands under a path. -/
def entryAt (path : String) : IO Entry := do
  try
    return .file (some (← IO.FS.readFile path))
  catch e =>
    match e with
    | .noFileOrDirectory _ _ _ => return .absent
    | .inappropriateType _ _ _ => return .directory
    | _ => return .file none

/-- The rest of a stream. -/
partial def readAll (stream : IO.FS.Stream) (read : String) : IO String := do
  let line ← stream.getLine
  if line.isEmpty then return read else readAll stream (read ++ line)

/-- Standard input to its end, if it is a text. -/
def inputText : IO (Option String) := do
  try
    return some (← readAll (← IO.getStdin) "")
  catch _ => return none

/-- The variables of the environment that make settings, as far as they are set. -/
def environment : IO Environment := do
  let values ← (Settings.variablePaths.map Prod.fst).mapM fun name => do return (name, ← IO.getEnv name)
  return ⟨values.filterMap fun (name, value) => value.map (name, ·)⟩

/-- What a session finds outside, as far as a command line can ask for it. -/
def gather (words : List String) : IO World := do
  match Request.read? words with
  | none => return ⟨fun _ => .absent, some "", ⟨[]⟩⟩
  | some r =>
    let entries ← (r.paths.filter (!isInputPath ·)).mapM fun path => do return (path, ← entryAt path)
    let input ← if r.paths.any isInputPath then inputText else pure (some "")
    return ⟨fun path => (entries.lookup path).getD .absent, input, ← environment⟩

/-- Where the program runs. -/
def host : IO Log.Host := do
  return { terminal := ← (← IO.getStderr).isTty }

/-- How to call the program. -/
def usage : String :=
  "usage: stencil [--config PATH] [--marker TEXT] [--diagnostics] [--log-level FILTER]\n"
    ++ "         compile SCHEMA | check -s SCHEMA DOCUMENT..."

end Schemata.CommandLine

open Schemata.CommandLine

/-- Run the program on the words of a command line. -/
def main (words : List String) : IO UInt32 := do
  let outcome := run (← gather words) words (← host)
  IO.print outcome.out
  IO.eprint outcome.err
  match outcome.failure with
  | some e => IO.eprintln ("Error: " ++ e.message)
  | none => if outcome.code = 2 then IO.eprintln usage
  return UInt32.ofNat outcome.code
