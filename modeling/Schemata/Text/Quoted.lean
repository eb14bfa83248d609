import Schemata.Unicode.Latest

/-!
# Texts in quotes

A text as it is shown to people: between quotes, with a short escape for the quote, the backslash and common control characters,
and the code point in braces for anything that cannot be seen by itself.
-/

namespace Schemata.Text

open Schemata.Unicode

/-- Characters that cannot be seen, or only together with the one before them. A letter that modifies the one before it is seen
by itself. -/
def unseen : CharSet :=
  CharSet.ofRanges
    ((categories ["cc", "cf", "co", "zl", "zp", "zs"]).diff (CharSet.single 32) ++ Latest.unassigned
      ++ Latest.graphemeExtend.diff Latest.modifierLetter ++ binary "defaultignorablecodepoint")

/-- A character as it is shown between quotes. -/
def quotedChar (c : Char) : List Char :=
  if c = '\x00' then ['\\', '0']
  else if c = '\t' then ['\\', 't']
  else if c = '\r' then ['\\', 'r']
  else if c = '\n' then ['\\', 'n']
  else if c = '\\' then ['\\', '\\']
  else if c = '"' then ['\\', '"']
  else if unseen.contains c then ['\\', 'u', '{'] ++ Nat.toDigits 16 c.toNat ++ ['}']
  else [c]

/-- A text between quotes. -/
def quoted (s : String) : String :=
  String.ofList ('"' :: s.toList.flatMap quotedChar ++ ['"'])

end Schemata.Text
