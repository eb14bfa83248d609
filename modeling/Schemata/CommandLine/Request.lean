import Schemata.Text.Shorter

/-!
# Command lines

A command line names a command, `compile` or `check`, and gives it options and paths. Options that every command takes may stand
before the command or after it, and the later place wins. An option is given at most once in each place, and after `--` every word
is a path.

Left out are the requests for texts about the program itself, which need neither settings nor files: the completions of a shell, the
help, and the version. So is the wording of a complaint about a command line that makes no request.
-/

namespace Schemata.CommandLine

/-- What every command takes. -/
structure Flags where
  config : Option String
  marker : Option String
  logLevel : Option String
  diagnostics : Bool
deriving DecidableEq

/-- What is to be done. -/
inductive Command where
  | compile (schema : String)
  | check (schema : String) (documents : List String)
deriving DecidableEq

/-- A command line that has been understood. -/
structure Request where
  flags : Flags
  command : Command
deriving DecidableEq

/-- An option. -/
inductive Switch where
  | config
  | marker
  | logLevel
  | diagnostics
  | schema
deriving DecidableEq

namespace Switch

/-- The options of every command. -/
def common : List Switch := [.config, .marker, .logLevel, .diagnostics]

/-- The word for an option. -/
def name : Switch → String
  | .config => "config"
  | .marker => "marker"
  | .logLevel => "log-level"
  | .diagnostics => "diagnostics"
  | .schema => "schema"

/-- The letter for an option. -/
def letter? : Switch → Option Char
  | .schema => some 's'
  | _ => none

/-- A value follows the option. -/
def takesValue : Switch → Bool
  | .diagnostics => false
  | _ => true

/-- The value of an option is a path, and so not empty. -/
def isPath : Switch → Bool
  | .config => true
  | .schema => true
  | _ => false

/-- The option may have a value. -/
def accepts (s : Switch) (value : String) : Bool :=
  !(s.isPath && value.isEmpty)

end Switch

/-- What a word of a command line is. -/
inductive Word where
  | escape
  | long (name : String) (attached : Option String)
  | short (letter : Char) (attached : Option String)
  | plain (s : String)

/-- What a word is: two hyphens alone, an option by its name or letter, perhaps with its value attached, or anything else. -/
def Word.of (s : String) : Word :=
  match s.toList with
  | ['-', '-'] => .escape
  | '-' :: '-' :: rest =>
    let name := String.ofList (rest.takeWhile (· != '='))
    match rest.dropWhile (· != '=') with
    | _ :: value => .long name (some (String.ofList value))
    | [] => .long name none
  | ['-'] => .plain s
  | ['-', letter] => .short letter none
  | '-' :: letter :: '=' :: value => .short letter (some (String.ofList value))
  | '-' :: letter :: value => .short letter (some (String.ofList value))
  | _ => .plain s

/-- What has been given in one place of a command line: options with their values, and paths. -/
structure Given where
  options : List (Switch × String)
  paths : List String

namespace Given

/-- Nothing. -/
def empty : Given := ⟨[], []⟩

/-- The value of an option. -/
def value? (g : Given) (s : Switch) : Option String :=
  g.options.lookup s

/-- Add an option, unless it has been given. -/
def add? (g : Given) (s : Switch) (value : String) : Option Given :=
  if (g.value? s).isSome || !s.accepts value then none else some { g with options := g.options ++ [(s, value)] }

/-- Add paths. -/
def addPaths? (g : Given) (paths : List String) : Option Given :=
  if paths.any String.isEmpty then none else some { g with paths := g.paths ++ paths }

/-- Add an option with the value attached to it, or else with the next word as its value. -/
def addWith? (g : Given) (s : Switch) (attached : Option String) (rest : List String) : Option (Given × NoLonger rest) :=
  match s.takesValue, attached with
  | false, none => (g.add? s "").map (·, ⟨rest, Nat.le_refl _⟩)
  | false, some _ => none
  | true, some value => (g.add? s value).map (·, ⟨rest, Nat.le_refl _⟩)
  | true, none =>
    match rest with
    | [] => none
    | next :: rest =>
      match Word.of next with
      | .plain value => (g.add? s value).map (·, ⟨rest, Nat.le_succ _⟩)
      | _ => none

end Given

/-- The option that a word gives, with the value attached to it. -/
def switchOf? (switches : List Switch) : Word → Option (Switch × Option String)
  | .long name attached => (switches.find? (·.name = name)).map (·, attached)
  | .short letter attached => (switches.find? (·.letter? = some letter)).map (·, attached)
  | _ => none

/-- Read the options at the front, up to the first word that is none. -/
def options? (switches : List Switch) (g : Given) (words : List String) : Option (Given × NoLonger words) :=
  match words with
  | [] => some (g, ⟨[], Nat.le_refl _⟩)
  | first :: rest =>
    match Word.of first with
    | .plain _ => some (g, ⟨first :: rest, Nat.le_refl _⟩)
    | .escape => some (g, ⟨first :: rest, Nat.le_refl _⟩)
    | word =>
      match switchOf? switches word with
      | none => none
      | some (s, attached) =>
        match g.addWith? s attached rest with
        | none => none
        | some (g, after) =>
          (options? switches g after.1).map fun (g, r) =>
            (g, ⟨r.1, by have := after.2; have := r.2; simp only [List.length_cons]; omega⟩)
termination_by words.length
decreasing_by
  have := after.2
  simp only [List.length_cons]
  omega

/-- Read options and paths, in any order. -/
def optionsAndPaths? (switches : List Switch) (g : Given) (words : List String) : Option Given :=
  match options? switches g words with
  | none => none
  | some (g, ⟨[], _⟩) => some g
  | some (g, ⟨first :: rest, _h⟩) =>
    match Word.of first with
    | .escape => g.addPaths? rest
    | _ =>
      match g.addPaths? [first] with
      | none => none
      | some g => optionsAndPaths? switches g rest
termination_by words.length
decreasing_by
  simp only [List.length_cons] at _h
  omega

namespace Flags

/-- The options of every command, as given after the command or else before it. -/
def ofGiven (before after : Given) : Flags where
  config := (after.value? .config).or (before.value? .config)
  marker := (after.value? .marker).or (before.value? .marker)
  logLevel := (after.value? .logLevel).or (before.value? .logLevel)
  diagnostics := (after.value? .diagnostics).isSome || (before.value? .diagnostics).isSome

end Flags

namespace Request

/-- The request that the words of a command line make. -/
def read? (words : List String) : Option Request := do
  let (before, ⟨rest, _⟩) ← options? Switch.common .empty words
  match rest with
  | "compile" :: rest =>
    let after ← optionsAndPaths? Switch.common .empty rest
    match after.paths with
    | [schema] => return ⟨.ofGiven before after, .compile schema⟩
    | _ => none
  | "check" :: rest =>
    let after ← optionsAndPaths? (.schema :: Switch.common) .empty rest
    let schema ← after.value? .schema
    if after.paths.isEmpty then none
    else return ⟨.ofGiven before after, .check schema after.paths⟩
  | _ => none

end Request

end Schemata.CommandLine
