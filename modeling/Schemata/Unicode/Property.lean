import Schemata.Unicode.CharSet
import Schemata.Unicode.Category
import Schemata.Unicode.Script
import Schemata.Unicode.ScriptExtension
import Schemata.Unicode.Age
import Schemata.Unicode.Break
import Schemata.Unicode.Binary
import Schemata.Unicode.Folding

/-!
# Character properties

The sets of digits, blanks and word characters, sets of characters by the name of a property, and what differs by case alone.
Names are compared without case, blanks, hyphens and underscores. All is by the version of the standard that patterns are read
by; `Latest` holds what texts are classified by.
-/

namespace Schemata.Unicode

open CharSet

/-- The characters of a general category, by short name. -/
def category (name : String) : CharSet :=
  (lookup? categoryTable name).getD []

/-- The characters of a binary property. -/
def binary (name : String) : CharSet :=
  (lookup? binaryTable name).getD []

/-- The characters of several general categories. -/
def categories (names : List String) : CharSet :=
  ofRanges (names.flatMap category)

/-- Blanks. -/
def whiteSpace : CharSet := binary "whitespace"

/-- Decimal digits of every script. -/
def decimalDigit : CharSet := category "nd"

/-- Characters of words: letters, marks, decimal digits, connectors and joiners. -/
def word : CharSet :=
  ofRanges (binary "alphabetic" ++ categories ["mn", "mc", "me", "nd", "pc"] ++ binary "joincontrol")

/-! ## Properties by name -/

/-- A name without case, blanks, hyphens, underscores and a leading `is`. -/
def looseName (name : String) : String :=
  let lower := name.toList.map Char.toLower
  let bare := fun (cs : List Char) => cs.filter fun c => c.toNat < 128 && c != ' ' && c != '_' && c != '-'
  match lower with
  | 'i' :: 's' :: rest => if bare rest = ['c'] then "isc" else String.ofList (bare rest)
  | cs => String.ofList (bare cs)

/-- The general categories under a loose name: one of them, a group of them, or one of three special names. Surrogates are no
characters, so their category has no set. -/
def categoryNamed? (name : String) : Option CharSet :=
  match name with
  | "any" => some full
  | "ascii" => some [(0, 127)]
  | "assigned" => some (category "cn").complement
  | "c" | "other" => some (categories ["cc", "cf", "cn", "co"])
  | "l" | "letter" => some (categories ["lu", "ll", "lt", "lm", "lo"])
  | "lc" | "casedletter" => some (categories ["lu", "ll", "lt"])
  | "m" | "mark" | "combiningmark" => some (categories ["mn", "mc", "me"])
  | "n" | "number" => some (categories ["nd", "nl", "no"])
  | "p" | "punctuation" | "punct" => some (categories ["pc", "pd", "ps", "pe", "pi", "pf", "po"])
  | "s" | "symbol" => some (categories ["sm", "sc", "sk", "so"])
  | "z" | "separator" => some (categories ["zs", "zl", "zp"])
  | name => lookup? categoryTable name

/-- The set under a name alone: a binary property, a general category, or a script. -/
def named? (name : String) : Option CharSet :=
  let name := looseName name
  (lookup? binaryTable name).or ((categoryNamed? name).or (lookup? scriptTable name))

/-- The characters of a version of the standard: what it added, and what the versions before it did. -/
def sinceAge? (name : String) : Option CharSet :=
  let isNamed := fun (row : String × List String) => (row.1.splitOn " ").contains name
  let before := ageTable.takeWhile fun row => !isNamed row
  (ageTable.find? isNamed).map fun row => ofRanges ((before ++ [row]).flatMap fun row => ofRow row.2)

/-- The set under a property and one of its values. -/
def valued? (property value : String) : Option CharSet :=
  let value := looseName value
  match looseName property with
  | "gc" | "generalcategory" => categoryNamed? value
  | "sc" | "script" => lookup? scriptTable value
  | "scx" | "scriptextensions" => lookup? scriptExtensionTable value
  | "age" => sinceAge? value
  | "gcb" | "graphemeclusterbreak" => lookup? graphemeBreakTable value
  | "wb" | "wordbreak" => lookup? wordBreakTable value
  | "sb" | "sentencebreak" => lookup? sentenceBreakTable value
  | _ => none

/-! ## Case -/

/-- The code points that fold to another, with it. -/
def foldings : List (Nat × Nat) :=
  (foldingRuns.flatMap (·.splitOn " ")).flatMap pairsOfRun

/-- A set with every character that differs from one in it by case alone. -/
def caseClosure (s : CharSet) : CharSet :=
  let targets := foldings.filterMap fun (n, f) => if s.has n || s.has f then some f else none
  let sources := foldings.filterMap fun (n, f) => if targets.contains f then some n else none
  ofRanges (s ++ targets.map (fun n => (n, n)) ++ sources.map (fun n => (n, n)))

end Schemata.Unicode
