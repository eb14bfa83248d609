import Schemata.Json.Reader

/-!
# Tokens of TOML documents

A text is cut into blanks, line ends, marks, texts between quotes, and words; a comment is left out. What a word means, a key, a
number or a date, is for the grammar to say.
-/

namespace Schemata.Toml

/-- A piece of a document. -/
inductive Token where
  | blank (cs : List Char)
  | lineEnd
  | mark (c : Char)
  | text (s : String) (multiline : Bool)
  | word (cs : List Char)

/-- One way to end a line, for both that there are. -/
def unifyLineEnds : List Char → List Char
  | '\r' :: '\n' :: rest => '\n' :: unifyLineEnds rest
  | c :: rest => c :: unifyLineEnds rest
  | [] => []

/-- A character that may stand in a document: no control character but the tab and the line end. -/
def isPlain (c : Char) : Bool :=
  c == '\t' || c == '\n' || (32 ≤ c.toNat && c.toNat ≠ 127)

/-- A blank inside a line. -/
def isBlank (c : Char) : Bool :=
  c == ' ' || c == '\t'

/-- A character of words. -/
def isWordChar (c : Char) : Bool :=
  c.isAlphanum || c == '_' || c == '-' || c == '+' || c == ':'

/-- The value of a run of hexadecimal digits. -/
def hexRun? (cs : List Char) : Option Nat :=
  cs.foldlM (fun n c => (Json.hexValue? c).map (n * 16 + ·)) 0

/-- The character of a code point, unless it is half of a surrogate pair or past the last one. -/
def codePoint? (n : Nat) : Option Char :=
  if n < 0xD800 ∨ (0xE000 ≤ n ∧ n ≤ 0x10FFFF) then some (Char.ofNat n) else none

/-- The character of a one-letter escape. -/
def letter? (c : Char) : Option Char :=
  if c = 'b' then some '\x08'
  else if c = 't' then some '\t'
  else if c = 'n' then some '\n'
  else if c = 'f' then some '\x0c'
  else if c = 'r' then some '\r'
  else if c = '"' ∨ c = '\\' then some c
  else none

/-- The character that an escape writes, after its backslash. -/
def escaped? (s : List Char) : Option (Char × Shorter s) :=
  match s with
  | 'u' :: a :: b :: c :: d :: rest => do
    let char ← (← hexRun? [a, b, c, d]) |> codePoint?
    return (char, ⟨rest, by simp only [List.length_cons]; omega⟩)
  | 'U' :: a :: b :: c :: d :: e :: f :: g :: h :: rest => do
    let char ← (← hexRun? [a, b, c, d, e, f, g, h]) |> codePoint?
    return (char, ⟨rest, by simp only [List.length_cons]; omega⟩)
  | c :: rest => (letter? c).map fun char => (char, .tail rest)
  | [] => none

/-- What follows a line end that is preceded by blanks alone. -/
def afterLineEnd? (s : List Char) : Option (NoLonger s) :=
  match h : s.dropWhile isBlank with
  | '\n' :: rest => some ⟨rest.dropWhile fun c => isBlank c || c == '\n', by
      have h1 := length_dropWhile_le isBlank s
      have h2 := length_dropWhile_le (fun c => isBlank c || c == '\n') rest
      rw [h, List.length_cons] at h1
      omega⟩
  | _ => none

/-- Put a character before what has been read. -/
def prepend {s t : List Char} (c : Char) (r : List Char × Shorter s) (h : s.length ≤ t.length) : List Char × Shorter t :=
  (c :: r.1, r.2.within h)

/-- The characters of a text with escapes, up to its closing quote on the same line. -/
def basic? (s : List Char) : Option (List Char × Shorter s) :=
  match s with
  | [] => none
  | '"' :: rest => some ([], ⟨rest, by simp⟩)
  | '\\' :: rest =>
    match escaped? rest with
    | some (c, r) => (basic? r.1).map fun q => prepend c q (by have := r.2; simp only [List.length_cons]; omega)
    | none => none
  | c :: rest => if c = '\n' then none else (basic? rest).map fun q => prepend c q (by simp)
termination_by s.length
decreasing_by
  · have := r.2
    simp only [List.length_cons]
    omega
  · simp

/-- The characters of a text without escapes, up to its closing quote on the same line. -/
def verbatim? (s : List Char) : Option (List Char × Shorter s) :=
  match s with
  | [] => none
  | '\'' :: rest => some ([], ⟨rest, by simp⟩)
  | c :: rest => if c = '\n' then none else (verbatim? rest).map fun q => prepend c q (by simp)

/-- The end of a text over several lines: three quotes, with one or two more before them that belong to the text. -/
def closing? (quote : Char) (s : List Char) : Option (List Char × Shorter s) :=
  match s with
  | a :: b :: c :: d :: e :: rest =>
    if [a, b, c, d, e].all (· == quote) then some ([quote, quote], ⟨rest, by simp only [List.length_cons]; omega⟩)
    else if [a, b, c, d].all (· == quote) then some ([quote], ⟨e :: rest, by simp only [List.length_cons]; omega⟩)
    else if [a, b, c].all (· == quote) then some ([], ⟨d :: e :: rest, by simp only [List.length_cons]; omega⟩)
    else none
  | [a, b, c, d] =>
    if [a, b, c, d].all (· == quote) then some ([quote], ⟨[], by simp⟩)
    else if [a, b, c].all (· == quote) then some ([], ⟨[d], by simp⟩)
    else none
  | [a, b, c] => if [a, b, c].all (· == quote) then some ([], ⟨[], by simp⟩) else none
  | _ => none

/-- The characters of a text with escapes over several lines. A backslash at the end of a line joins it to the next word. -/
def multilineBasic? (s : List Char) : Option (List Char × Shorter s) :=
  match closing? '"' s with
  | some r => some r
  | none =>
    match s with
    | [] => none
    | '\\' :: rest =>
      match afterLineEnd? rest with
      | some r => (multilineBasic? r.1).map fun q => (q.1, q.2.within (by have := r.2; simp only [List.length_cons]; omega))
      | none =>
        match escaped? rest with
        | some (c, r) => (multilineBasic? r.1).map fun q => prepend c q (by have := r.2; simp only [List.length_cons]; omega)
        | none => none
    | c :: rest => (multilineBasic? rest).map fun q => prepend c q (by simp)
termination_by s.length
decreasing_by
  · have := r.2
    simp only [List.length_cons]
    omega
  · have := r.2
    simp only [List.length_cons]
    omega
  · simp

/-- The characters of a text without escapes over several lines. -/
def multilineVerbatim? (s : List Char) : Option (List Char × Shorter s) :=
  match closing? '\'' s with
  | some r => some r
  | none =>
    match s with
    | [] => none
    | c :: rest => (multilineVerbatim? rest).map fun q => prepend c q (by simp)

/-- A text between quotes, from its opening quote on. A line end right after three opening quotes is left out. -/
def quoted? (s : List Char) : Option (Token × Shorter s) :=
  match s with
  | '"' :: '"' :: '"' :: '\n' :: rest =>
    (multilineBasic? rest).map fun q => (.text (String.ofList q.1) true, q.2.within (by simp only [List.length_cons]; omega))
  | '"' :: '"' :: '"' :: rest =>
    (multilineBasic? rest).map fun q => (.text (String.ofList q.1) true, q.2.within (by simp only [List.length_cons]; omega))
  | '"' :: rest => (basic? rest).map fun q => (.text (String.ofList q.1) false, q.2.within (by simp))
  | '\'' :: '\'' :: '\'' :: '\n' :: rest =>
    (multilineVerbatim? rest).map fun q => (.text (String.ofList q.1) true, q.2.within (by simp only [List.length_cons]; omega))
  | '\'' :: '\'' :: '\'' :: rest =>
    (multilineVerbatim? rest).map fun q => (.text (String.ofList q.1) true, q.2.within (by simp only [List.length_cons]; omega))
  | '\'' :: rest => (verbatim? rest).map fun q => (.text (String.ofList q.1) false, q.2.within (by simp))
  | _ => none

/-- Cut a text into tokens. -/
def tokens? (s : List Char) : Option (List Token) :=
  match s with
  | [] => some []
  | c :: rest =>
    if c = '\n' then (tokens? rest).map (Token.lineEnd :: ·)
    else if isBlank c then
      (tokens? (rest.dropWhile isBlank)).map (Token.blank (c :: rest.takeWhile isBlank) :: ·)
    else if c = '#' then tokens? (rest.dropWhile (· != '\n'))
    else if "=[]\x7b\x7d,.".toList.contains c then (tokens? rest).map (Token.mark c :: ·)
    else if isWordChar c then
      (tokens? (rest.dropWhile isWordChar)).map (Token.word (c :: rest.takeWhile isWordChar) :: ·)
    else
      match quoted? (c :: rest) with
      | some (t, r) => (tokens? r.1).map (t :: ·)
      | none => none
termination_by s.length
decreasing_by
  · simp
  · have := length_dropWhile_le isBlank rest
    simp only [List.length_cons]
    omega
  · have := length_dropWhile_le (· != '\n') rest
    simp only [List.length_cons]
    omega
  · simp
  · have := length_dropWhile_le isWordChar rest
    simp only [List.length_cons]
    omega
  · exact r.2

end Schemata.Toml
