import Schemata.Json.Value
import Schemata.Text.Segments

/-!
# References

A reference is a dotted path to a field of the object around the value under test. Each segment names a member of the object
reached so far.
-/

namespace Schemata

/-- A dotted path to a sibling field. -/
structure Reference where
  path : String
deriving DecidableEq

namespace Reference

/-- The segments of the path; an empty path has one empty segment. -/
def segments (r : Reference) : List String :=
  Text.segments '.' r.path

/-- Follow segments from the members of an object. -/
def follow : List String → Members → Option Json
  | [], _ => none
  | [segment], members => members.get? segment
  | segment :: rest, members =>
    match members.get? segment with
    | some (.obj inner) => follow rest inner
    | _ => none

/-- The value that the reference stands for, given the object around it. -/
def resolve (r : Reference) (parent : Option Members) : Option Json :=
  parent.bind (follow r.segments)

/-- The text of a reference. -/
def text (r : Reference) : String :=
  "ref(" ++ r.path ++ ")"

end Reference

end Schemata
