import Schemata.Toml.Scalar
import Schemata.Toml.Table
import Schemata.Toml.Token

/-!
# Keys and values of TOML documents

Arrays may go over several lines, inline tables may not. Values nest less than eighty deep, and the path of a key is of less than
eighty keys.
-/

namespace Schemata.Toml

namespace Token

/-- A blank inside a line. -/
def isBlank : Token → Bool
  | .blank _ => true
  | _ => false

/-- What may stand between the items of an array. -/
def isLoose : Token → Bool
  | .blank _ => true
  | .lineEnd => true
  | _ => false

end Token

/-- What follows the blanks at the front. -/
def afterBlank (ts : List Token) : List Token :=
  ts.dropWhile Token.isBlank

/-- What follows the blanks and line ends at the front. -/
def afterLoose (ts : List Token) : List Token :=
  ts.dropWhile Token.isLoose

theorem length_afterBlank_le (ts : List Token) : (afterBlank ts).length ≤ ts.length :=
  length_dropWhile_le _ ts

theorem length_afterLoose_le (ts : List Token) : (afterLoose ts).length ≤ ts.length :=
  length_dropWhile_le _ ts

/-- A character of a key without quotes. -/
def isKeyChar (c : Char) : Bool :=
  c.isAlphanum || c == '_' || c == '-'

/-- One key of a path. -/
def key? (ts : List Token) : Option (String × Shorter ts) :=
  match ts with
  | .text s false :: rest => some (s, ⟨rest, by simp⟩)
  | .word cs :: rest => if cs.all isKeyChar then some (String.ofList cs, ⟨rest, by simp⟩) else none
  | _ => none

/-- Keys with points between them: the keys before the last, and the last. -/
def keys? (ts : List Token) : Option ((List String × String) × Shorter ts) :=
  match key? ts with
  | none => none
  | some (key, ⟨after, h⟩) =>
    match hb : afterBlank after with
    | .mark '.' :: rest =>
      have hlt : rest.length < ts.length := by
        have := length_afterBlank_le after
        rw [hb, List.length_cons] at this
        omega
      have hle := length_afterBlank_le rest
      match keys? (afterBlank rest) with
      | some ((keys, last), r) => some ((key :: keys, last), r.within (by omega))
      | none => none
    | _ => some (([], key), ⟨after, h⟩)
termination_by ts.length

/-- How deep values nest at most, and how long the path of a key is. -/
def maxDepth : Nat := 79

/-- A path of keys that is not too long. -/
def path? (ts : List Token) : Option ((List String × String) × Shorter ts) :=
  (keys? ts).filter fun path => path.1.1.length < maxDepth

/-- The words at the front, with points between them. -/
def run? (ts : List Token) : Option (List Char × Shorter ts) :=
  match ts with
  | .word cs :: .mark '.' :: rest =>
    match run? rest with
    | some (more, r) => some (cs ++ '.' :: more, r.within (by simp only [List.length_cons]; omega))
    | none => some (cs, ⟨.mark '.' :: rest, by simp⟩)
  | .word cs :: rest => some (cs, ⟨rest, by simp⟩)
  | _ => none

/-- A bare value. A time may follow its date after one blank. -/
def bare? (ts : List Token) : Option (Json × Shorter ts) :=
  match run? ts with
  | none => none
  | some (cs, ⟨after, h⟩) =>
    let alone := (scalarValue? cs).map fun v => (v, (⟨after, h⟩ : Shorter ts))
    match after, h with
    | .blank [' '] :: rest, h =>
      match run? rest with
      | some (time, r) =>
        if isMoment (cs ++ ' ' :: time) then some (.obj [], r.within (by simp only [List.length_cons] at h; omega)) else alone
      | none => alone
    | _, _ => alone

mutual

/-- One value, nested at most to the given depth. -/
def value? (depth : Nat) (ts : List Token) : Option (Json × Shorter ts) :=
  match ts with
  | .text s _ :: rest => some (.str s, ⟨rest, by simp⟩)
  | .mark '[' :: rest =>
    if depth = 0 then none
    else (items? (depth - 1) rest).map fun (vs, r) => (.arr vs, r.within (by simp))
  | .mark '{' :: rest =>
    if depth = 0 then none
    else
      match h : afterBlank rest with
      | .mark '}' :: after => some (.obj [], ⟨after, by
          have := length_afterBlank_le rest
          rw [h, List.length_cons] at this
          simp only [List.length_cons]
          omega⟩)
      | _ => (entries? (depth - 1) .empty rest).map fun (t, r) => (t.toJson, r.within (by simp))
  | ts => bare? ts
termination_by (ts.length, 0)
decreasing_by
  · exact Prod.Lex.left _ _ (by simp)
  · exact Prod.Lex.left _ _ (by simp)

/-- The items of an array with commas between them, and perhaps one more comma, up to the closing bracket. -/
def items? (depth : Nat) (ts : List Token) : Option (List Json × Shorter ts) :=
  have hle := length_afterLoose_le ts
  match hts : afterLoose ts with
  | .mark ']' :: rest => some ([], ⟨rest, by rw [hts, List.length_cons] at hle; omega⟩)
  | first :: more =>
    match value? depth (first :: more) with
    | none => none
    | some (v, ⟨after, h⟩) =>
      have hle2 := length_afterLoose_le after
      match hafter : afterLoose after with
      | .mark ']' :: rest => some ([v], ⟨rest, by rw [hts] at hle; rw [hafter, List.length_cons] at hle2; omega⟩)
      | .mark ',' :: rest =>
        have hlt : rest.length < ts.length := by rw [hts] at hle; rw [hafter, List.length_cons] at hle2; omega
        (items? depth rest).map fun (vs, r) => (v :: vs, r.within (by omega))
      | _ => none
  | [] => none
termination_by (ts.length, 1)
decreasing_by
  · rw [hts] at hle
    rcases Nat.lt_or_eq_of_le hle with hlt | heq
    · exact Prod.Lex.left _ _ hlt
    · rw [← heq]
      exact Prod.Lex.right _ (by omega)
  · exact Prod.Lex.left _ _ hlt

/-- The entries of an inline table with commas between them, up to the closing brace, added to those before them. -/
def entries? (depth : Nat) (t : Table) (ts : List Token) : Option (Table × Shorter ts) :=
  have hle := length_afterBlank_le ts
  match path? (afterBlank ts) with
  | none => none
  | some ((keys, last), ⟨afterKey, hkey⟩) =>
    have hle2 := length_afterBlank_le afterKey
    match heq : afterBlank afterKey with
    | .mark '=' :: written =>
      have hlt : written.length < ts.length := by rw [heq, List.length_cons] at hle2; omega
      have hle3 := length_afterBlank_le written
      match value? depth (afterBlank written) with
      | none => none
      | some (v, ⟨afterValue, hvalue⟩) =>
        have hle4 := length_afterBlank_le afterValue
        match t.addEntry keys last v, hend : afterBlank afterValue with
        | some t, .mark '}' :: rest => some (t, ⟨rest, by rw [hend, List.length_cons] at hle4; omega⟩)
        | some t, .mark ',' :: rest =>
          have hlt2 : rest.length < ts.length := by rw [hend, List.length_cons] at hle4; omega
          (entries? depth t rest).map fun (t, r) => (t, r.within (by omega))
        | _, _ => none
    | _ => none
termination_by (ts.length, 1)
decreasing_by
  · exact Prod.Lex.left _ _ (by omega)
  · exact Prod.Lex.left _ _ hlt2

end

end Schemata.Toml
