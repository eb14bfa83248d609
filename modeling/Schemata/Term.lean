import Schemata.Schema.Basic

/-!
# Terms

What a description compiles to: scalars, patterns, lists and shapes of terms, schemas, and references. A builder takes terms and
gives one.
-/

namespace Schemata

/-- A compiled part of a description. -/
inductive Term where
  | literal (v : Json)
  | pattern (p : Pattern)
  | list (items : List Term)
  | shape (fields : List (String × Term))
  | schema (s : Schema)
  | reference (r : Reference)

namespace Term

/-- What sort of term it is, in a word. -/
def kindName : Term → String
  | .literal _ => "literal"
  | .pattern _ => "regex"
  | .list _ => "list"
  | .shape _ => "shape"
  | .schema _ => "schema"
  | .reference _ => "reference"

/-- Null, false, zero and the empty text count as nothing. -/
def isFalsy : Term → Bool
  | .literal .null => true
  | .literal (.bool b) => !b
  | .literal (.num n) => n.toBinary64.same .zero
  | .literal (.str s) => s.isEmpty
  | _ => false

end Term

end Schemata
