import Schemata.Library.Arguments

/-!
# Root builders

The builders that begin a chain: one for each kind of values, and one for references.
-/

namespace Schemata

/-- A builder that needs no receiver. -/
inductive Root where
  | mixed
  | string
  | number
  | boolean
  | object
  | array
  | ref
deriving DecidableEq

namespace Root

/-- Every root builder, in order of name. -/
def all : List Root := [.array, .boolean, .mixed, .number, .object, .ref, .string]

/-- The name of a root builder. -/
def name : Root → String
  | .mixed => "mixed"
  | .string => "string"
  | .number => "number"
  | .boolean => "boolean"
  | .object => "object"
  | .array => "array"
  | .ref => "ref"

/-- The root builder of a name. -/
def named? (name : String) : Option Root :=
  all.find? (·.name == name)

/-- The schema of a kind, for a builder that takes no arguments. -/
def plain (tag : Tag) (args : Arguments) : Except BuildError Term := do
  args.atMost 0
  return .schema (.ofTag tag)

/-- Call a root builder. -/
def build (root : Root) (args : Arguments) : Except BuildError Term :=
  match root with
  | .mixed => plain .mixed args
  | .string => plain .string args
  | .number => plain .number args
  | .boolean => plain .boolean args
  | .object => do
    args.atMost 1
    if args.items.isEmpty then return .schema (.ofTag .object)
    return .schema ((Schema.ofTag .object).shape (← args.shape 0))
  | .array => do
    args.atMost 1
    if args.items.isEmpty then return .schema (.ofTag .array)
    return .schema ((Schema.ofTag .array).of (← args.schema 0))
  | .ref => do
    args.atMost 1
    let path ← args.string 0
    if path = "" then .error (args.invalid 0 "a non-empty field path")
    else return .reference ⟨path⟩

/-- Call the root builder of a name, if there is one. -/
def call? (name : String) (items : List Term) : Option (Except BuildError Term) :=
  (named? name).map (·.build ⟨name, items⟩)

/-- A root builder is found under its own name. -/
theorem named?_name (root : Root) : named? root.name = some root := by
  cases root <;> decide

end Root

end Schemata
