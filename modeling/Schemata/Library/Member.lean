import Schemata.Library.Arguments

/-!
# Member builders

The builders that refine a schema. Which of them there are depends on the kind of the schema (`exposedBy`); a bound means the size
of a number, the length of a text, or the number of items of an array.
-/

namespace Schemata

/-- A builder that refines the schema before it. -/
inductive Member where
  | required
  | optional
  | nullable
  | label
  | oneOf
  | notOneOf
  | min
  | max
  | length
  | moreThan
  | lessThan
  | positive
  | negative
  | integer
  | matching
  | email
  | url
  | lowercase
  | uppercase
  | shape
  | of
deriving DecidableEq

namespace Member

/-- Every member builder, in order of name. -/
def all : List Member :=
  [.email, .integer, .label, .length, .lessThan, .lowercase, .matching, .max, .min, .moreThan, .negative, .notOneOf, .nullable,
    .of, .oneOf, .optional, .positive, .required, .shape, .uppercase, .url]

/-- The name of a member builder. -/
def name : Member → String
  | .required => "required"
  | .optional => "optional"
  | .nullable => "nullable"
  | .label => "label"
  | .oneOf => "oneOf"
  | .notOneOf => "notOneOf"
  | .min => "min"
  | .max => "max"
  | .length => "length"
  | .moreThan => "moreThan"
  | .lessThan => "lessThan"
  | .positive => "positive"
  | .negative => "negative"
  | .integer => "integer"
  | .matching => "matches"
  | .email => "email"
  | .url => "url"
  | .lowercase => "lowercase"
  | .uppercase => "uppercase"
  | .shape => "shape"
  | .of => "of"

/-- A schema of a kind has a member builder. -/
def exposedBy (tag : Tag) : Member → Bool
  | .required | .optional | .nullable | .label | .oneOf | .notOneOf => true
  | .min | .max => tag == .number || tag == .string || tag == .array
  | .length => tag == .string || tag == .array
  | .moreThan | .lessThan | .positive | .negative | .integer => tag == .number
  | .matching | .email | .url | .lowercase | .uppercase => tag == .string
  | .shape => tag == .object
  | .of => tag == .array

/-- The member builders of schemas of a kind, in order of name. -/
def ofTag (tag : Tag) : List Member :=
  all.filter (·.exposedBy tag)

/-- The member builder that schemas of a kind have under a name. -/
def named? (tag : Tag) (name : String) : Option Member :=
  (ofTag tag).find? (·.name == name)

/-- The entries of a set and its message: a list and a message, or else all arguments; the last of several arguments that begin
with a reference is the message if it is a text. -/
def membership (args : Arguments) : Except BuildError (List Allowed × Option String) :=
  match args.get? 0 with
  | none => .error (args.invalid 0 "a list of values")
  | some (.list _) => do
    args.atMost 2
    return (← args.allowed 0, ← args.message 1)
  | some (.reference _) =>
    let last := args.items.length - 1
    match last, args.literal? last with
    | _ + 1, some (.str _) => return (← args.allowedUntil 0 last, ← args.message last)
    | _, _ => return (← args.allowed 0, none)
  | some _ => return (← args.allowed 0, none)

/-- Add a rule with a bound and a message: the message is read first. -/
def bounded (s : Schema) (args : Arguments) (rule : Except BuildError Rule) : Except BuildError Schema := do
  args.atMost 2
  let message ← args.message 1
  return s.ruleWithMessage (← rule) message

/-- Add a rule that takes one argument and a message: the argument is read first. -/
def ruleWithArgument (s : Schema) (args : Arguments) (rule : Except BuildError Rule) : Except BuildError Schema := do
  args.atMost 2
  let rule ← rule
  return s.ruleWithMessage rule (← args.message 1)

/-- Add a rule that takes only a message. -/
def plainRule (s : Schema) (args : Arguments) (rule : Rule) : Except BuildError Schema := do
  args.atMost 1
  return s.ruleWithMessage rule (← args.message 0)

/-- The rule of a least size, for schemas of a kind. -/
def minRule (tag : Tag) (args : Arguments) : Except BuildError Rule :=
  match tag with
  | .number => return .min (← args.numberOr 0 .zero)
  | .string => return .minLength (← args.countOr 0 0)
  | _ => return .minSize (← args.countOr 0 0)

/-- The rule of a greatest size, for schemas of a kind. -/
def maxRule (tag : Tag) (args : Arguments) : Except BuildError Rule :=
  match tag with
  | .number => return .max (← args.numberOr 0 .zero)
  | .string => return .maxLength (← args.countOr 0 0)
  | _ => return .maxSize (← args.countOr 0 0)

/-- The rule of an exact size, for schemas of a kind. -/
def lengthRule (tag : Tag) (args : Arguments) : Except BuildError Rule :=
  match tag with
  | .string => return .exactLength (← args.countOr 0 0)
  | _ => return .exactSize (← args.countOr 0 0)

/-- Call a member builder on a schema. -/
def build (member : Member) (s : Schema) (args : Arguments) : Except BuildError Schema :=
  match member with
  | .required => do
    args.atMost 1
    return s.required (← args.message 0)
  | .optional => do
    args.atMost 0
    return s.optional
  | .nullable => do
    args.atMost 1
    return s.nullable (← args.flag 0 true)
  | .label => do
    args.atMost 1
    return s.label (← if args.items.isEmpty then .ok "" else args.string 0)
  | .oneOf => do
    let (values, message) ← membership args
    return s.oneOf values message
  | .notOneOf => do
    let (values, message) ← membership args
    return s.notOneOf values message
  | .min => bounded s args (minRule s.tag args)
  | .max => bounded s args (maxRule s.tag args)
  | .length => bounded s args (lengthRule s.tag args)
  | .moreThan => ruleWithArgument s args (return .moreThan (← args.numberOr 0 .zero))
  | .lessThan => ruleWithArgument s args (return .lessThan (← args.numberOr 0 .zero))
  | .positive => plainRule s args (.moreThan .zero)
  | .negative => plainRule s args (.lessThan .zero)
  | .integer => plainRule s args .integer
  | .matching => ruleWithArgument s args (return .matching (← args.pattern 0))
  | .email => plainRule s args .email
  | .url => plainRule s args .url
  | .lowercase => plainRule s args .lowercase
  | .uppercase => plainRule s args .uppercase
  | .shape => do
    args.atMost 1
    return s.shape (← args.shape 0)
  | .of => do
    args.atMost 1
    return s.of (← args.schema 0)

/-- Call the member builder that a schema has under a name, if it has one. -/
def call? (s : Schema) (name : String) (items : List Term) : Option (Except BuildError Term) :=
  (named? s.tag name).map fun member => (member.build s ⟨name, items⟩).map .schema

end Member

end Schemata
