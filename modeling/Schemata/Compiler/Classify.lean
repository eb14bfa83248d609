import Schemata.Node
import Schemata.Text.Segments

/-!
# Classes of nodes

Nothing in a description is tagged: a sequence is an invocation because its head is a text with the marker in it, or a sequence
whose own head is such a text, and so on.
-/

namespace Schemata

/-- What a node compiles as. -/
inductive NodeClass where
  | invocation
  | plainList
  | mapping
  | scalar
deriving DecidableEq

namespace Node

mutual

/-- A node that makes an invocation of a sequence that it heads. -/
def headsInvocation (marker : String) (head : Node) : Bool :=
  match head with
  | .str name => Text.occursIn marker name
  | .seq items => isInvocation marker items
  | _ => false
termination_by structural head

/-- The items of a sequence are an invocation. -/
def isInvocation (marker : String) (items : List Node) : Bool :=
  match items with
  | [] => false
  | head :: _ => headsInvocation marker head
termination_by structural items

end

/-- The class of a node under a marker. -/
def classify (marker : String) : Node → NodeClass
  | .seq items => if isInvocation marker items then .invocation else .plainList
  | .map _ => .mapping
  | _ => .scalar

end Node

end Schemata
