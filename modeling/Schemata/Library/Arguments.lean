import Schemata.Term

/-!
# Arguments of builders

The arguments of a call, read by position. What an argument should have been is said in the error, with the name of the builder.
-/

namespace Schemata

/-- Why a builder refuses a call. -/
inductive BuildError where
  | invalidArgument (builder : String) (position : Nat) (expected : String)
  | argumentCount (builder : String) (expected got : Nat)
  | custom (message : String)
deriving DecidableEq

/-- What is wrong, in words. -/
def BuildError.message : BuildError → String
  | .invalidArgument builder position expected =>
    "`" ++ builder ++ "` expects " ++ expected ++ " at argument " ++ toString position
  | .argumentCount builder expected got =>
    "`" ++ builder ++ "` accepts at most " ++ toString expected ++ " argument(s), got " ++ toString got
  | .custom message => message

/-- A call of a builder: its name and its arguments. -/
structure Arguments where
  builder : String
  items : List Term

namespace Arguments

variable (args : Arguments)

/-- The argument at a position. -/
def get? (position : Nat) : Option Term :=
  args.items[position]?

/-- The error that an argument is not what was expected. -/
def invalid (position : Nat) (expected : String) : BuildError :=
  .invalidArgument args.builder position expected

/-- There are no more arguments than a builder takes. -/
def atMost (most : Nat) : Except BuildError Unit :=
  if most < args.items.length then .error (.argumentCount args.builder most args.items.length) else .ok ()

/-- The literal at a position. -/
def literal? (position : Nat) : Option Json :=
  match args.get? position with
  | some (.literal v) => some v
  | _ => none

/-- A number. -/
def number (position : Nat) : Except BuildError Binary64 :=
  match args.literal? position with
  | some (.num n) => .ok n.toBinary64
  | _ => .error (args.invalid position "a number")

/-- The largest count. -/
def maxCount : Nat := 2 ^ 64 - 1

/-- The count that a number is: a whole number from zero on; a binary64 number is taken up to 2^64, and cut off at the largest
count. -/
def countOf? : Number → Option Nat
  | .whole n _ => if 0 ≤ n then some n.toNat else none
  | .real x =>
    match x.toInt? with
    | some n => if 0 ≤ n ∧ n ≤ 2 ^ 64 then some (min n.toNat maxCount) else none
    | none => none

/-- A count. -/
def count (position : Nat) : Except BuildError Nat :=
  match args.literal? position with
  | some (.num n) => (countOf? n).elim (.error (args.invalid position "a non-negative integer")) .ok
  | _ => .error (args.invalid position "a non-negative integer")

/-- A number, or another when there is no argument. -/
def numberOr (position : Nat) (default : Binary64) : Except BuildError Binary64 :=
  if (args.get? position).isNone then .ok default else args.number position

/-- A count, or another when there is no argument. -/
def countOr (position default : Nat) : Except BuildError Nat :=
  if (args.get? position).isNone then .ok default else args.count position

/-- A text. -/
def string (position : Nat) : Except BuildError String :=
  match args.literal? position with
  | some (.str s) => .ok s
  | _ => .error (args.invalid position "a string")

/-- A message; there is none when there is no argument, or null. -/
def message (position : Nat) : Except BuildError (Option String) :=
  match args.get? position with
  | none | some (.literal .null) => .ok none
  | some (.literal (.str s)) => .ok (some s)
  | some _ => .error (args.invalid position "a message string")

/-- A truth value, or another when there is no argument, or null. -/
def flag (position : Nat) (default : Bool) : Except BuildError Bool :=
  match args.get? position with
  | none | some (.literal .null) => .ok default
  | some (.literal (.bool b)) => .ok b
  | some _ => .error (args.invalid position "a boolean")

/-- A pattern. -/
def pattern (position : Nat) : Except BuildError Pattern :=
  match args.get? position with
  | some (.pattern p) => .ok p
  | _ => .error (args.invalid position "a regular expression")

mutual

/-- The schemas of the fields of a shape, in order; a shape in the place of one becomes a schema of objects. -/
def fieldSchemas (position : Nat) (fields : List (String × Term)) : Except BuildError (List (String × Schema)) :=
  match fields with
  | [] => .ok []
  | (key, term) :: rest => return (key, ← fieldSchema position key term) :: (← fieldSchemas position rest)
termination_by structural fields

/-- The schema of a field of a shape. -/
def fieldSchema (position : Nat) (key : String) (term : Term) : Except BuildError Schema :=
  match term with
  | .schema s => .ok s
  | .shape nested => return (Schema.ofTag .object).shape (← fieldSchemas position nested)
  | other => .error (args.invalid position ("a schema for field `" ++ key ++ "`, found a " ++ other.kindName))
termination_by structural term

end

/-- A schema; a shape becomes a schema of objects that need not be there. -/
def schema (position : Nat) : Except BuildError Schema :=
  match args.get? position with
  | some (.schema s) => .ok s
  | some (.shape fields) => return (Schema.ofTag .object).shape (← args.fieldSchemas position fields)
  | _ => .error (args.invalid position "a schema")

/-- The fields of a shape. -/
def shape (position : Nat) : Except BuildError (Mapping Schema) :=
  match args.get? position with
  | some (.shape fields) => args.fieldSchemas position fields
  | _ => .error (args.invalid position "a shape mapping")

/-- The entry of a set that a term stands for. -/
def entry (position : Nat) : Term → Except BuildError Allowed
  | .literal v => .ok (.value v)
  | .reference r => .ok (.reference r)
  | other => .error (args.invalid position ("a value or reference, found a " ++ other.kindName))

/-- The entries of a set: the items of a list, or else the arguments from a position up to but not including another. -/
def allowedUntil (position stop : Nat) : Except BuildError (List Allowed) :=
  match args.get? position with
  | some (.list items) => items.mapM (args.entry position)
  | some _ =>
    if stop ≤ args.items.length then ((args.items.take stop).drop position).mapM (args.entry position) else .ok []
  | none => .error (args.invalid position "a list of values")

/-- The entries of a set: the items of a list, or else all arguments from a position on. -/
def allowed (position : Nat) : Except BuildError (List Allowed) :=
  args.allowedUntil position args.items.length

end Arguments

end Schemata
