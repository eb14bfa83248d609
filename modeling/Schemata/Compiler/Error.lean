import Schemata.Library.Arguments
import Schemata.Node

/-!
# Why a description does not compile
-/

namespace Schemata

/-- What is wrong with the form of an argument. -/
inductive ArgumentFault where
  | badPattern (e : DecodeError)
  | noPattern (found : String)
  | noShape (found : String)

/-- What is wrong with an argument, in words. -/
def ArgumentFault.message : ArgumentFault → String
  | .badPattern e => e.message
  | .noPattern found => "expected a pattern string or regular expression, found " ++ found
  | .noShape found => "expected a shape to continue with, found a " ++ found

/-- Why a description does not compile: a name that names nothing, an argument of the wrong form, a builder that refuses, either of
the first two together with the whole description, or a marker that marks everything. -/
inductive CompileError where
  | unresolved (name : String)
  | argument (builder : String) (fault : ArgumentFault)
  | build (e : BuildError)
  | within (node : String) (source : CompileError)
  | emptyMarker

namespace CompileError

/-- What is wrong, in words. -/
def message : CompileError → String
  | .unresolved name => "cannot resolve invocation name `" ++ name ++ "`"
  | .argument builder fault => "invalid argument for `" ++ builder ++ "`: " ++ fault.message
  | .build e => e.message
  | .within node source => "failed to compile " ++ node ++ ": " ++ source.message
  | .emptyMarker => "invocation marker must not be empty"

/-- An error that is reported together with the whole description. -/
def isWrapped : CompileError → Bool
  | .unresolved _ => true
  | .argument _ _ => true
  | _ => false

/-- An error as it is reported for a whole description. -/
def wrap (node : String) (e : CompileError) : CompileError :=
  if e.isWrapped then .within node e else e

end CompileError

end Schemata
