import Schemata.Json.Printer
import Schemata.Pattern
import Schemata.Text.Format
import Schemata.Violation

/-!
# Rules

A rule constrains the values of one type and accepts every other value. A rule that does not accept a value says why; a rule
with a message of its own says it under the same code, with the plain reason below.
-/

namespace Schemata

/-- A constraint on a value. -/
inductive Rule where
  | min (bound : Binary64)
  | max (bound : Binary64)
  | moreThan (bound : Binary64)
  | lessThan (bound : Binary64)
  | integer
  | minLength (bound : Nat)
  | maxLength (bound : Nat)
  | exactLength (length : Nat)
  | minSize (bound : Nat)
  | maxSize (bound : Nat)
  | exactSize (size : Nat)
  | matching (pattern : Pattern)
  | email
  | url
  | lowercase
  | uppercase
  | predicate (name message : String) (test : Json → Bool)
  | withMessage (inner : Rule) (message : String)

namespace Rule

/-- The name of a rule; a message does not change it. -/
def name : Rule → String
  | .min _ => "Min"
  | .max _ => "Max"
  | .moreThan _ => "MoreThan"
  | .lessThan _ => "LessThan"
  | .integer => "Integer"
  | .minLength _ => "MinLength"
  | .maxLength _ => "MaxLength"
  | .exactLength _ => "ExactLength"
  | .minSize _ => "MinSize"
  | .maxSize _ => "MaxSize"
  | .exactSize _ => "ExactSize"
  | .matching _ => "Matches"
  | .email => "Email"
  | .url => "Url"
  | .lowercase => "Lowercase"
  | .uppercase => "Uppercase"
  | .predicate name _ _ => name
  | .withMessage inner _ => inner.name

/-- A test of the quantity of a number; every other value passes. -/
def onNumber (test : Binary64 → Bool) : Json → Bool
  | .num n => test n.toBinary64
  | _ => true

/-- A test of a text; every other value passes. -/
def onText (test : String → Bool) : Json → Bool
  | .str s => test s
  | _ => true

/-- A test of the number of items of an array; every other value passes. -/
def onSize (test : Nat → Bool) : Json → Bool
  | .arr items => test items.length
  | _ => true

/-- A rule accepts a value. -/
def accepts : Rule → Json → Bool
  | .min bound => onNumber fun x => bound ≤ x
  | .max bound => onNumber fun x => x ≤ bound
  | .moreThan bound => onNumber fun x => bound < x
  | .lessThan bound => onNumber fun x => x < bound
  | .integer => onNumber fun x => x.isWhole
  | .minLength bound => onText fun s => bound ≤ s.length
  | .maxLength bound => onText fun s => s.length ≤ bound
  | .exactLength length => onText fun s => s.length == length
  | .minSize bound => onSize fun n => bound ≤ n
  | .maxSize bound => onSize fun n => n ≤ bound
  | .exactSize size => onSize fun n => n == size
  | .matching pattern => onText pattern.isMatch
  | .email => onText Text.isEmail
  | .url => onText Text.isUrl
  | .lowercase => onText Text.isLowercase
  | .uppercase => onText Text.isUppercase
  | .predicate _ _ test => test
  | .withMessage inner _ => inner.accepts

/-- A violation of a bound on a number. -/
def numberViolation (code phrase key : String) (bound : Binary64) (v : Json) : Violation :=
  let bound := bound.text .message
  ((Violation.of code ("Value must be " ++ phrase ++ " " ++ bound)).withParam key bound).withParam "actual" v.text

/-- The length of a text or of an array; nothing else has one. -/
def lengthOf : Json → Nat
  | .str s => s.length
  | .arr items => items.length
  | _ => 0

/-- A violation of a bound on a length. -/
def lengthViolation (code phrase unit key : String) (bound : Nat) (v : Json) : Violation :=
  let bound := toString bound
  ((Violation.of code ("Must " ++ phrase ++ " " ++ bound ++ " " ++ unit)).withParam key bound).withParam "actual"
    (toString (lengthOf v))

/-- What a rule says of a value it does not accept. -/
def violation (rule : Rule) (v : Json) : Violation :=
  match rule with
  | .min bound => numberViolation "min" "at least" "min" bound v
  | .max bound => numberViolation "max" "at most" "max" bound v
  | .moreThan bound => numberViolation "more_than" "greater than" "bound" bound v
  | .lessThan bound => numberViolation "less_than" "less than" "bound" bound v
  | .integer => (Violation.of "integer" "Value must be an integer").withParam "actual" v.text
  | .minLength bound => lengthViolation "min_length" "be at least" "characters" "min" bound v
  | .maxLength bound => lengthViolation "max_length" "be at most" "characters" "max" bound v
  | .exactLength length => lengthViolation "exact_length" "be exactly" "characters" "length" length v
  | .minSize bound => lengthViolation "min_size" "have at least" "elements" "min" bound v
  | .maxSize bound => lengthViolation "max_size" "have at most" "elements" "max" bound v
  | .exactSize size => lengthViolation "exact_size" "have exactly" "elements" "size" size v
  | .matching pattern =>
    (Violation.of "matches" ("Must match the pattern \"" ++ pattern.source ++ "\"")).withParam "pattern" pattern.source
  | .email => .invalidFormat "email"
  | .url => .invalidFormat "url"
  | .lowercase => .of "lowercase" "String must be lowercase"
  | .uppercase => .of "uppercase" "String must be uppercase"
  | .predicate name message _ => .of name message
  | .withMessage inner message =>
    let plain := inner.violation v
    ⟨plain.code, message, none, plain.params, [plain]⟩

/-- The violation of a rule by a value, if it does not accept it. -/
def violation? (rule : Rule) (v : Json) : Option Violation :=
  if rule.accepts v then none else some (rule.violation v)

/-- A rule, with a message of its own if there is one. -/
def withMessage? (rule : Rule) : Option String → Rule
  | some message => .withMessage rule message
  | none => rule

@[simp] theorem violation?_eq_none_iff (rule : Rule) (v : Json) : rule.violation? v = none ↔ rule.accepts v = true := by
  simp [violation?]

end Rule

end Schemata
