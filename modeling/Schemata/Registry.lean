import Schemata.Library.Arguments
import Schemata.Text.Quoted

/-!
# Custom builders

A registry holds builders of the user's own under names. They are looked up before those of the library, and see only their
arguments. A name registered again gets the new builder.
-/

namespace Schemata

/-- A builder of the user's own. -/
abbrev CustomBuilder := List Term → Except BuildError Term

/-- Builders of the user's own, by name. -/
structure Registry where
  builders : Mapping CustomBuilder

namespace Registry

/-- No builders. -/
def empty : Registry := ⟨[]⟩

/-- Put a builder under a name. -/
def register (r : Registry) (name : String) (builder : CustomBuilder) : Registry :=
  ⟨r.builders.insert name builder⟩

/-- The builder under a name. -/
def get? (r : Registry) (name : String) : Option CustomBuilder :=
  r.builders.get? name

/-- Whether there is a builder under a name. -/
def contains (r : Registry) (name : String) : Bool :=
  r.builders.contains name

/-- The names, in order. -/
def names (r : Registry) : List String :=
  r.builders.keys

/-- How many builders there are. -/
def size (r : Registry) : Nat :=
  r.builders.length

/-- The text of a registry: its names. -/
def text (r : Registry) : String :=
  "Registry \x7b builders: [" ++ ", ".intercalate (r.names.map Text.quoted) ++ "] \x7d"

@[simp] theorem get?_empty (name : String) : empty.get? name = none := rfl

theorem get?_register_self (r : Registry) (name : String) (builder : CustomBuilder) :
    (r.register name builder).get? name = some builder :=
  Mapping.get?_insert_self r.builders name builder

theorem get?_register_of_ne (r : Registry) {name other : String} (builder : CustomBuilder) (h : name ≠ other) :
    (r.register name builder).get? other = r.get? other :=
  Mapping.get?_insert_of_ne r.builders builder h

end Registry

end Schemata
