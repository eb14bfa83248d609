import Schemata.Json.Value

/-!
# Writing documents

The compact form (`text`) has no blanks; the indented form (`indented`) puts each item on a line of its own, two columns further
in than its container. In a text only the quote, the backslash and control characters are escaped.
-/

namespace Schemata.Json

/-- One hexadecimal digit in lower case. -/
def hexDigit (n : Nat) : Char :=
  (Nat.toDigits 16 n).headD '0'

/-- A character of a text as it is written between quotes. -/
def escapeChar (c : Char) : List Char :=
  if c = '"' then ['\\', '"']
  else if c = '\\' then ['\\', '\\']
  else if c = '\x08' then ['\\', 'b']
  else if c = '\t' then ['\\', 't']
  else if c = '\n' then ['\\', 'n']
  else if c = '\x0c' then ['\\', 'f']
  else if c = '\r' then ['\\', 'r']
  else if c.toNat < 32 then ['\\', 'u', '0', '0', hexDigit (c.toNat / 16), hexDigit (c.toNat % 16)]
  else [c]

/-- A text between quotes. -/
def quote (s : String) : String :=
  String.ofList ('"' :: s.toList.flatMap escapeChar ++ ['"'])

mutual

/-- The compact form. -/
def text : Json → String
  | .null => "null"
  | .bool b => if b then "true" else "false"
  | .num n => n.text
  | .str s => quote s
  | .arr items => "[" ++ ",".intercalate (itemTexts items) ++ "]"
  | .obj members => "\x7b" ++ ",".intercalate (memberTexts members) ++ "\x7d"
termination_by structural v => v

/-- The compact forms of items. -/
def itemTexts : List Json → List String
  | [] => []
  | v :: rest => text v :: itemTexts rest
termination_by structural vs => vs

/-- The compact forms of members. -/
def memberTexts : List (String × Json) → List String
  | [] => []
  | (k, v) :: rest => (quote k ++ ":" ++ text v) :: memberTexts rest
termination_by structural ms => ms

end

/-- Lines between brackets, each indented by one more step. -/
def block (depth : Nat) (opening closing : String) (lines : List String) : String :=
  let margin := fun n => String.ofList (List.replicate (2 * n) ' ')
  if lines.isEmpty then opening ++ closing
  else opening ++ "\n" ++ ",\n".intercalate (lines.map (margin (depth + 1) ++ ·)) ++ "\n" ++ margin depth ++ closing

mutual

/-- The indented form of a value whose container is at the given depth. -/
def indentedAt (depth : Nat) : Json → String
  | .arr items => block depth "[" "]" (indentedItems (depth + 1) items)
  | .obj members => block depth "\x7b" "\x7d" (indentedMembers (depth + 1) members)
  | .null => "null"
  | .bool b => if b then "true" else "false"
  | .num n => n.text
  | .str s => quote s
termination_by structural v => v

/-- The indented forms of items. -/
def indentedItems (depth : Nat) : List Json → List String
  | [] => []
  | v :: rest => indentedAt depth v :: indentedItems depth rest
termination_by structural vs => vs

/-- The indented forms of members. -/
def indentedMembers (depth : Nat) : List (String × Json) → List String
  | [] => []
  | (k, v) :: rest => (quote k ++ ": " ++ indentedAt depth v) :: indentedMembers depth rest
termination_by structural ms => ms

end

/-- The indented form. -/
def indented (v : Json) : String :=
  indentedAt 0 v

end Schemata.Json
