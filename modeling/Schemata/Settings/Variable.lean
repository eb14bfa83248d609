import Schemata.Toml.Value
import Schemata.Unicode.Property

/-!
# Values of variables

The text of a variable of the environment is read as a value: a truth value, a number, a text between quotes, an array, a table, or
a bare text. Whatever cannot be read to its end is a text as it stands.
-/

namespace Schemata.Settings

/-- Blanks around values. -/
def isBlank (c : Char) : Bool :=
  c == ' ' || c == '\t' || c == '\n' || c == '\x0c' || c == '\r'

/-- A character that ends a bare value. -/
def isSeparator (c : Char) : Bool :=
  c == ',' || c == '{' || c == '}' || c == '[' || c == ']'

/-- What follows the blanks at the front. -/
def afterBlank (s : List Char) : List Char :=
  s.dropWhile isBlank

theorem length_afterBlank_le (s : List Char) : (afterBlank s).length ≤ s.length :=
  length_dropWhile_le _ s

/-- A text without the blanks around it. -/
def trimmed (s : List Char) : List Char :=
  let blank := Unicode.whiteSpace.contains
  ((s.dropWhile blank).reverse.dropWhile blank).reverse

/-- A whole number of 64 bits, with a sign or none. -/
def whole? (s : List Char) : Option Json :=
  let (negative, digits) := match s with
    | '-' :: rest => (true, rest)
    | '+' :: rest => (false, rest)
    | s => (false, s)
  let n := Numeral.wholeValue digits
  if digits = [] ∨ digits.all Char.isDigit = false then none
  else if negative then if h : n ≤ 2 ^ 63 then some (.num (.ofNeg n h)) else none
  else if h : n < 2 ^ 64 then some (.num (.ofNat n h))
  else none

/-- A number with a point: digits on one side of it at least, and perhaps an exponent. -/
def pointed? (s : List Char) : Option Json :=
  let (negative, s) := match s with
    | '-' :: rest => (true, rest)
    | '+' :: rest => (false, rest)
    | s => (false, s)
  let number? := fun (fraction : List Char) (exponent : Int) =>
    let whole := s.takeWhile Char.isDigit
    if whole = [] ∧ fraction = [] then none
    else
      let decimal : Decimal := ⟨Numeral.wholeValue (whole ++ fraction), exponent - fraction.length⟩
      some ((decimal.nearest? negative).elim Toml.nonfinite fun x => .num (.real x))
  match s.dropWhile Char.isDigit with
  | '.' :: rest =>
    match rest.dropWhile Char.isDigit with
    | [] => number? (rest.takeWhile Char.isDigit) 0
    | c :: more =>
      if c = 'e' ∨ c = 'E' then (Numeral.exponent? more).bind (number? (rest.takeWhile Char.isDigit)) else none
  | _ => none

/-- What a bare value says. -/
def bareValue (s : List Char) : Json :=
  match (pointed? (trimmed s)).or (whole? (trimmed s)) with
  | some v => v
  | none => .str (String.ofList (trimmed s))

/-- A text after its opening quote, and what follows it. No control character but the tab may stand in it. -/
def quoted? (s : List Char) : Option (String × Shorter s) :=
  match Toml.basic? s with
  | some (cs, r) => if (s.take (s.length - r.1.length)).all Toml.isPlain then some (String.ofList cs, r) else none
  | none => none

/-- The key of an entry, and what follows it. -/
def key? (s : List Char) : Option (String × Shorter s) :=
  match s with
  | '"' :: rest => (quoted? rest).map fun (text, r) => (text, r.behind ['"'])
  | c :: rest =>
    if Toml.isKeyChar c then
      some (String.ofList (c :: rest.takeWhile Toml.isKeyChar), ⟨rest.dropWhile Toml.isKeyChar, by
        have := length_dropWhile_le Toml.isKeyChar rest
        simp only [List.length_cons]
        omega⟩)
    else none
  | [] => none

mutual

/-- One value, and what follows it. -/
def value? (s : List Char) : Option (Json × NoLonger s) :=
  match s with
  | [] => some (.str "", .whole [])
  | 't' :: 'r' :: 'u' :: 'e' :: rest => some (.bool true, (NoLonger.whole rest).behind ['t', 'r', 'u', 'e'])
  | 'f' :: 'a' :: 'l' :: 's' :: 'e' :: rest => some (.bool false, (NoLonger.whole rest).behind ['f', 'a', 'l', 's', 'e'])
  | '[' :: rest => (items? rest).map fun (vs, r) => (.arr vs, (r.behind ['[']).noLonger)
  | '{' :: rest => (entries? rest).map fun (ms, r) => (.object ms, (r.behind ['{']).noLonger)
  | '"' :: rest => (quoted? rest).map fun (text, r) => (.str text, (r.behind ['"']).noLonger)
  | '\'' :: c :: '\'' :: rest => some (.str (String.singleton c), (NoLonger.whole rest).behind ['\'', c, '\''])
  | '\'' :: _ => none
  | s =>
    some (bareValue (s.takeWhile fun c => !isSeparator c), ⟨s.dropWhile fun c => !isSeparator c, length_dropWhile_le _ s⟩)
termination_by (s.length, 0)
decreasing_by
  · exact Prod.Lex.left _ _ (by simp)
  · exact Prod.Lex.left _ _ (by simp)

/-- The items of an array with commas between them, up to the closing bracket. -/
def items? (s : List Char) : Option (List Json × Shorter s) :=
  match s with
  | [] => none
  | ']' :: rest => some ([], ⟨rest, by simp⟩)
  | first :: more =>
    have hle := length_afterBlank_le (first :: more)
    match value? (afterBlank (first :: more)) with
    | none => none
    | some (v, ⟨after, h⟩) =>
      have hle2 := length_afterBlank_le after
      match hr : afterBlank after with
      | ']' :: rest => some ([v], ⟨rest, by rw [hr, List.length_cons] at hle2; omega⟩)
      | ',' :: rest =>
        have hlt : rest.length < (first :: more).length := by rw [hr, List.length_cons] at hle2; omega
        (items? rest).map fun (vs, r) => (v :: vs, r.within (by omega))
      | _ => none
termination_by (s.length, 1)
decreasing_by
  · rcases Nat.lt_or_eq_of_le hle with hlt | heq
    · exact Prod.Lex.left _ _ hlt
    · rw [← heq]
      exact Prod.Lex.right _ (by omega)
  · exact Prod.Lex.left _ _ hlt

/-- The entries of a table with commas between them, up to the closing brace. -/
def entries? (s : List Char) : Option (List (String × Json) × Shorter s) :=
  match s with
  | [] => none
  | '}' :: rest => some ([], ⟨rest, by simp⟩)
  | first :: more =>
    have hle := length_afterBlank_le (first :: more)
    match key? (afterBlank (first :: more)) with
    | none => none
    | some (key, ⟨afterKey, hkey⟩) =>
      have hle2 := length_afterBlank_le afterKey
      match heq : afterBlank afterKey with
      | '=' :: written =>
        have hlt : written.length < (first :: more).length := by rw [heq, List.length_cons] at hle2; omega
        have hle3 := length_afterBlank_le written
        match value? (afterBlank written) with
        | none => none
        | some (v, ⟨after, h⟩) =>
          have hle4 := length_afterBlank_le after
          match hr : afterBlank after with
          | '}' :: rest => some ([(key, v)], ⟨rest, by rw [hr, List.length_cons] at hle4; omega⟩)
          | ',' :: rest =>
            have hlt2 : rest.length < (first :: more).length := by rw [hr, List.length_cons] at hle4; omega
            (entries? rest).map fun (ms, r) => ((key, v) :: ms, r.within (by omega))
          | _ => none
      | _ => none
termination_by (s.length, 1)
decreasing_by
  · exact Prod.Lex.left _ _ (by omega)
  · exact Prod.Lex.left _ _ hlt2

end

/-- The value that the text of a variable gives. -/
def variableValue (s : String) : Json :=
  match value? (afterBlank s.toList) with
  | some (v, r) => if afterBlank r.1 = [] then v else .str s
  | none => .str s

end Schemata.Settings
