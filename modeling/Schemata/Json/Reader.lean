import Schemata.Json.Numeral
import Schemata.Json.Value
import Schemata.Text.Shorter

/-!
# Reading documents

A text is cut into tokens, and the tokens are read by the grammar of documents. Containers nest at most to a given depth, a
member named twice keeps its last value, and half of a surrogate pair is no character.
-/

namespace Schemata.Json

/-- A piece of the text of a document; `junk` is all that is left where no piece begins. -/
inductive Token where
  | mark (c : Char)
  | text (s : String)
  | scalar (v : Json)
  | junk

/-- Blanks between tokens. -/
def isBlank (c : Char) : Bool :=
  c == ' ' || c == '\n' || c == '\t' || c == '\r'

/-- The value of a hexadecimal digit. -/
def hexValue? (c : Char) : Option Nat :=
  if '0' ≤ c ∧ c ≤ '9' then some (c.toNat - '0'.toNat)
  else if 'a' ≤ c ∧ c ≤ 'f' then some (c.toNat - 'a'.toNat + 10)
  else if 'A' ≤ c ∧ c ≤ 'F' then some (c.toNat - 'A'.toNat + 10)
  else none

/-- The 16-bit unit that four hexadecimal digits write. -/
def unit? (a b c d : Char) : Option Nat := do
  return ((← hexValue? a) * 16 + (← hexValue? b)) * 256 + (← hexValue? c) * 16 + (← hexValue? d)

/-- The character that two units of a surrogate pair write. -/
def pair? (high low : Nat) : Option Char :=
  if 0xD800 ≤ high ∧ high < 0xDC00 ∧ 0xDC00 ≤ low ∧ low < 0xE000 then
    some (Char.ofNat (0x10000 + (high - 0xD800) * 1024 + (low - 0xDC00)))
  else none

/-- The character that a single unit writes, unless it is half of a pair. -/
def single? (unit : Nat) : Option Char :=
  if 0xD800 ≤ unit ∧ unit < 0xE000 then none else some (Char.ofNat unit)

/-- The character of a one-letter escape. -/
def escape? (c : Char) : Option Char :=
  if c = '"' ∨ c = '\\' ∨ c = '/' then some c
  else if c = 'b' then some '\x08'
  else if c = 'f' then some '\x0c'
  else if c = 'n' then some '\n'
  else if c = 'r' then some '\r'
  else if c = 't' then some '\t'
  else none

/-- The characters up to the closing quote, and what follows it. -/
def quoted? (s : List Char) : Option (List Char × Shorter s) :=
  match s with
  | [] => none
  | '"' :: rest => some ([], .tail rest)
  | '\\' :: 'u' :: a :: b :: c :: d :: '\\' :: 'u' :: e :: f :: g :: h :: rest =>
    match (do pair? (← unit? a b c d) (← unit? e f g h)), (do single? (← unit? a b c d)) with
    | some char, _ => (quoted? rest).map fun (cs, r) => (char :: cs, r.behind ['\\', 'u', a, b, c, d, '\\', 'u', e, f, g, h])
    | none, some char =>
      (quoted? ('\\' :: 'u' :: e :: f :: g :: h :: rest)).map fun (cs, r) => (char :: cs, r.behind ['\\', 'u', a, b, c, d])
    | none, none => none
  | '\\' :: 'u' :: a :: b :: c :: d :: rest =>
    match (do single? (← unit? a b c d)) with
    | some char => (quoted? rest).map fun (cs, r) => (char :: cs, r.behind ['\\', 'u', a, b, c, d])
    | none => none
  | '\\' :: c :: rest =>
    match escape? c with
    | some char => (quoted? rest).map fun (cs, r) => (char :: cs, r.behind ['\\', c])
    | none => none
  | c :: rest =>
    if c.toNat < 32 then none
    else (quoted? rest).map fun (cs, r) => (c :: cs, r.behind [c])
termination_by s.length
decreasing_by
  all_goals
    simp only [List.length_cons]
    omega

/-- The scalar that a bare word writes. -/
def word? (s : List Char) : Option Json :=
  if s = "null".toList then some .null
  else if s = "true".toList then some (.bool true)
  else if s = "false".toList then some (.bool false)
  else none

/-- Cut a text into tokens. -/
def tokens (s : List Char) : List Token :=
  match s with
  | [] => []
  | c :: rest =>
    if isBlank c then tokens rest
    else if c = '"' then
      match quoted? rest with
      | some (cs, r) => .text (String.ofList cs) :: tokens r.1
      | none => [.junk]
    else if "[]\x7b\x7d,:".toList.contains c then .mark c :: tokens rest
    else if Numeral.isNumeralChar c ∧ c ≠ 'e' ∧ c ≠ 'E' then
      match Numeral.read? (c :: rest.takeWhile Numeral.isNumeralChar) with
      | some n => .scalar (.num n) :: tokens (rest.dropWhile Numeral.isNumeralChar)
      | none => [.junk]
    else
      match word? (c :: rest.takeWhile Char.isAlpha) with
      | some v => .scalar v :: tokens (rest.dropWhile Char.isAlpha)
      | none => [.junk]
termination_by s.length
decreasing_by
  · simp
  · have := r.2
    simp only [List.length_cons]
    omega
  · simp
  · have := length_dropWhile_le Numeral.isNumeralChar rest
    simp only [List.length_cons]
    omega
  · have := length_dropWhile_le Char.isAlpha rest
    simp only [List.length_cons]
    omega

mutual

/-- One value, its containers nested at most to the given depth. -/
def value? (depth : Nat) (ts : List Token) : Option (Json × Shorter ts) :=
  match ts with
  | .scalar v :: rest => some (v, .tail rest)
  | .text s :: rest => some (.str s, .tail rest)
  | .mark '[' :: .mark ']' :: rest => if depth = 0 then none else some (.arr [], (Shorter.tail rest).behind [.mark '['])
  | .mark '{' :: .mark '}' :: rest => if depth = 0 then none else some (.obj [], (Shorter.tail rest).behind [.mark '{'])
  | .mark '[' :: rest =>
    if depth = 0 then none
    else (items? (depth - 1) rest).map fun (vs, r) => (.arr vs, r.behind [.mark '['])
  | .mark '{' :: rest =>
    if depth = 0 then none
    else (members? (depth - 1) rest).map fun (ms, r) => (.object ms, r.behind [.mark '{'])
  | _ => none
termination_by (ts.length, 0)

/-- One item or more, with commas between them, up to the closing bracket. -/
def items? (depth : Nat) (ts : List Token) : Option (List Json × Shorter ts) :=
  match value? depth ts with
  | none => none
  | some (v, r) =>
    have hr := r.2
    match hafter : r.1 with
    | .mark ']' :: rest => some ([v], ⟨rest, by rw [hafter, List.length_cons] at hr; omega⟩)
    | .mark ',' :: rest =>
      have hlt : rest.length < ts.length := by rw [hafter, List.length_cons] at hr; omega
      (items? depth rest).map fun (vs, r) => (v :: vs, r.within (Nat.le_of_lt hlt))
    | _ => none
termination_by (ts.length, 1)
decreasing_by
  · exact Prod.Lex.right _ (by omega)
  · exact Prod.Lex.left _ _ hlt

/-- One member or more, with commas between them, up to the closing brace. -/
def members? (depth : Nat) (ts : List Token) : Option (List (String × Json) × Shorter ts) :=
  match ts with
  | .text key :: .mark ':' :: written =>
    match value? depth written with
    | none => none
    | some (v, r) =>
      have hr := r.2
      match hafter : r.1 with
      | .mark '}' :: rest =>
        some ([(key, v)], Shorter.behind ⟨rest, by rw [hafter, List.length_cons] at hr; omega⟩ [.text key, .mark ':'])
      | .mark ',' :: rest =>
        have hlt : rest.length < written.length := by rw [hafter, List.length_cons] at hr; omega
        (members? depth rest).map fun (ms, r) =>
          ((key, v) :: ms, (r.within (Nat.le_of_lt hlt)).behind [.text key, .mark ':'])
      | _ => none
  | _ => none
termination_by (ts.length, 1)
decreasing_by
  · simp only [List.length_cons]
    exact Prod.Lex.left _ _ (by omega)
  · simp only [List.length_cons]
    exact Prod.Lex.left _ _ (by omega)

end

/-- The document at the front of a text, its containers nested at most to the given depth, and whether nothing follows it. -/
def frontWithin? (depth : Nat) (s : String) : Option (Json × Bool) :=
  (value? depth (tokens s.toList)).map fun (v, r) => (v, r.1.isEmpty)

/-- The document that a text writes, its containers nested at most to the given depth. -/
def readWithin (depth : Nat) (s : String) : Option Json :=
  (frontWithin? depth s).bind fun (v, isAlone) => if isAlone then some v else none

/-- How deep containers nest at most. -/
def maxDepth : Nat := 127

/-- The document at the front of a text, and whether nothing follows it. -/
def front? (s : String) : Option (Json × Bool) :=
  frontWithin? maxDepth s

/-- The document that a text writes. -/
def read? (s : String) : Option Json :=
  readWithin maxDepth s

end Schemata.Json
