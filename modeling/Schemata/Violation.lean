import Schemata.Json.Value

/-!
# Violations

A violation says what is wrong with a value: a stable code, a message for people, the path of the field it is about, named
parameters, and the violations below it. `under` moves a whole tree of violations below a key; `flatten` lists a tree from the top
down.
-/

namespace Schemata

/-- Something wrong with a value, with what is wrong inside it. -/
structure Violation where
  code : String
  message : String
  field : Option String
  params : List (String × String)
  nested : List Violation

namespace Violation

/-- A violation with a code and a message alone. -/
def of (code message : String) : Violation := ⟨code, message, none, [], []⟩

/-- A value that has to be there is not. -/
def required : Violation :=
  of "required" "This field is required"

/-- Add a parameter after those already there. -/
def withParam (e : Violation) (key value : String) : Violation :=
  { e with params := e.params ++ [(key, value)] }

/-- Put a violation at a field. -/
def withField (e : Violation) (field : String) : Violation :=
  { e with field := some field }

/-- Set the violations below. -/
def withNested (e : Violation) (nested : List Violation) : Violation :=
  { e with nested }

/-- Add a violation below, after those already there. -/
def withNestedLast (e inner : Violation) : Violation :=
  { e with nested := e.nested ++ [inner] }

/-- A value has another type than the one expected. -/
def typeMismatch (expected actual : String) : Violation :=
  ((of "type_mismatch" ("Expected a value of type " ++ expected)).withParam "expected" expected).withParam "actual" actual

/-- A text is not of the format expected. -/
def invalidFormat (expected : String) : Violation :=
  (of "invalid_format" "Invalid format").withParam "expected" expected

/-- A violation with a message of its own. -/
def custom (message : String) : Violation :=
  of "custom" message

/-- The first parameter under a key. -/
def param (e : Violation) (key : String) : Option String :=
  e.params.lookup key

/-- Whether there are violations below. -/
def hasNested (e : Violation) : Bool :=
  !e.nested.isEmpty

/-- Add the label of a value, unless there is a label already. -/
def labelled (e : Violation) (label : Option String) : Violation :=
  match label with
  | some text => if (e.param "label").isNone then e.withParam "label" text else e
  | none => e

/-- The path of a field below a key. -/
def pathUnder (key : String) : Option String → String
  | some child => if child = "" then key else key ++ "." ++ child
  | none => key

mutual

/-- Move a violation, and all below it, under a key. -/
def under (e : Violation) (key : String) : Violation :=
  match e with
  | ⟨code, message, field, params, nested⟩ => ⟨code, message, some (pathUnder key field), params, allUnder nested key⟩
termination_by structural e

/-- Move violations under a key. -/
def allUnder (es : List Violation) (key : String) : List Violation :=
  match es with
  | [] => []
  | e :: rest => under e key :: allUnder rest key
termination_by structural es

end

mutual

/-- A violation and all below it, each before those below it. -/
def flatten (e : Violation) : List Violation :=
  match e with
  | ⟨code, message, field, params, nested⟩ => ⟨code, message, field, params, nested⟩ :: flattenAll nested
termination_by structural e

/-- Violations and all below them, one tree after another. -/
def flattenAll (es : List Violation) : List Violation :=
  match es with
  | [] => []
  | e :: rest => flatten e ++ flattenAll rest
termination_by structural es

end

mutual

/-- A violation as a document; of parameters with one key the last remains. -/
def toJson (e : Violation) : Json :=
  match e with
  | ⟨code, message, field, params, nested⟩ =>
    .object [("code", .str code), ("message", .str message), ("field", .ofText? field),
      ("params", .object (params.map fun (k, v) => (k, .str v))), ("nested", .arr (allToJson nested))]
termination_by structural e

/-- Violations as documents. -/
def allToJson (es : List Violation) : List Json :=
  match es with
  | [] => []
  | e :: rest => toJson e :: allToJson rest
termination_by structural es

end

/-- The part of the text before the violations below: field, code, message and parameters. -/
def headline (code message : String) (field : Option String) (params : List (String × String)) : String :=
  (match field with
    | some field => "[" ++ field ++ "] "
    | none => "")
  ++ code ++ ": " ++ message
  ++ (if params.isEmpty then ""
      else " (params: [" ++ ", ".intercalate (params.map fun (k, v) => k ++ "=" ++ v) ++ "])")

mutual

/-- The text of a violation, with a numbered line for each one below it. -/
def text (e : Violation) : String :=
  match e with
  | ⟨code, message, field, params, nested⟩ =>
    headline code message field params
      ++ (if nested.isEmpty then "" else "\n  Nested errors:" ++ numbered 1 nested)
termination_by structural e

/-- Numbered lines for violations. -/
def numbered (n : Nat) (es : List Violation) : String :=
  match es with
  | [] => ""
  | e :: rest => "\n    " ++ toString n ++ ". " ++ text e ++ numbered (n + 1) rest
termination_by structural es

end

@[simp] theorem allUnder_eq_map (es : List Violation) (key : String) : allUnder es key = es.map (·.under key) := by
  induction es with
  | nil => rfl
  | cons e rest ih => simp [allUnder, ih]

@[simp] theorem flattenAll_eq_flatMap (es : List Violation) : flattenAll es = es.flatMap flatten := by
  induction es with
  | nil => rfl
  | cons e rest ih => simp [flattenAll, ih]

/-- The tree below a violation, in its list form. -/
theorem flatten_eq (e : Violation) : e.flatten = e :: e.nested.flatMap flatten := by
  cases e
  simp [flatten]

end Violation

/-- Several violations of one value. -/
structure Violations where
  list : List Violation

namespace Violations

/-- One violation that holds all of them. -/
def single (es : Violations) (code message : String) : Violation :=
  (Violation.of code message).withNested es.list

/-- The text: their number, and a numbered line for each. -/
def text (es : Violations) : String :=
  "Validation failed with " ++ toString es.list.length ++ " error(s):\n"
    ++ "".intercalate (es.list.zipIdx.map fun (e, i) => "  " ++ toString (i + 1) ++ ". " ++ e.text ++ "\n")

end Violations

end Schemata
