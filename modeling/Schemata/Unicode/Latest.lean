import Schemata.Unicode.Property
import Schemata.Unicode.Change
import Schemata.Unicode.Lowercase

/-!
# The latest version of the standard

The sets of characters that texts are classified by, and the lower-case form of a text. They are of a later version of the
standard than the tables: each set is the one of the tables with the changes since.
-/

namespace Schemata.Unicode.Latest

open CharSet

/-- A set with the changes since to the property that has a name. -/
def revised (name : String) (set : CharSet) : CharSet :=
  set.symmDiff ((lookup? changeTable name).getD [])

/-- Letters and what counts as one. -/
def alphabetic : CharSet := revised "alphabetic" (binary "alphabetic")

/-- Lower-case characters. -/
def lowercase : CharSet := revised "lowercase" (binary "lowercase")

/-- Upper-case characters. -/
def uppercase : CharSet := revised "uppercase" (binary "uppercase")

/-- Characters of either case or of title case. -/
def cased : CharSet := revised "cased" (binary "cased")

/-- Characters that stand between the letters of a word without ending it. -/
def caseIgnorable : CharSet := revised "caseignorable" (binary "caseignorable")

/-- Digits and other numbers. -/
def numeric : CharSet := ofRanges (["nd", "nl", "no"].flatMap fun name => revised name (category name))

/-- Characters that show only together with the one before them. -/
def graphemeExtend : CharSet := revised "graphemeextend" (binary "graphemeextend")

/-- Letters that modify the one before them. -/
def modifierLetter : CharSet := revised "lm" (category "lm")

/-- Code points that no character has. -/
def unassigned : CharSet := revised "cn" (category "cn")

/-! ## Lower case -/

/-- The code points with a lower-case form of their own, with it. -/
def lowercasings : List (Nat × Nat) :=
  (lowercaseRuns.flatMap (·.splitOn " ")).flatMap pairsOfRun

/-- The lower-case form of a character inside a text: a sigma that ends a word has a form of its own, and a dotted capital I
keeps its dot as a mark. -/
def lowercaseOf (before after : List Char) (c : Char) : List Char :=
  let meetsCased := fun (cs : List Char) => ((cs.dropWhile caseIgnorable.contains).head?.map cased.contains).getD false
  if c = 'Σ' then if meetsCased before && !meetsCased after then ['ς'] else ['σ']
  else if c = 'İ' then ['i', Char.ofNat 0x307]
  else [Char.ofNat ((lowercasings.lookup c.toNat).getD c.toNat)]

/-- The lower-case form of a text, given what stands before it, last character first. -/
def lowercasedAfter (before : List Char) : List Char → List Char
  | [] => []
  | c :: rest => lowercaseOf before rest c ++ lowercasedAfter (c :: before) rest

/-- The lower-case form of a text. -/
def lowercased (s : String) : String :=
  String.ofList (lowercasedAfter [] s.toList)

end Schemata.Unicode.Latest
