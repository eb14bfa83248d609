import Schemata.Toml.Value

/-!
# TOML documents

A document is a run of lines: entries, headers of tables and headers of lists of tables, each with a path of keys. `read?` gives it
in the data model of documents, where a table is an object.
-/

namespace Schemata.Toml

/-- A line of a document that says something. -/
inductive Statement where
  | entry (path : List String) (key : String) (v : Json)
  | openTable (path : List String) (key : String)
  | openNext (path : List String) (key : String)

/-- What follows the end of a line. -/
def afterLine? (ts : List Token) : Option (NoLonger ts) :=
  have hle := length_afterBlank_le ts
  match h : afterBlank ts with
  | [] => some ⟨[], by simp⟩
  | .lineEnd :: rest => some ⟨rest, by rw [h, List.length_cons] at hle; omega⟩
  | _ => none

/-- The path of a header, up to its closing bracket, and what follows that. -/
def header? (ts : List Token) : Option ((List String × String) × Shorter ts) :=
  have hle := length_afterBlank_le ts
  match path? (afterBlank ts) with
  | none => none
  | some (path, ⟨after, h⟩) =>
    have hle2 := length_afterBlank_le after
    match hr : afterBlank after with
    | .mark ']' :: rest => some (path, ⟨rest, by rw [hr, List.length_cons] at hle2; omega⟩)
    | _ => none

/-- An entry: a path of keys, an equals sign, and a value. -/
def entry? (ts : List Token) : Option (Statement × Shorter ts) :=
  match path? ts with
  | none => none
  | some ((keys, last), ⟨afterKey, hkey⟩) =>
    have hle := length_afterBlank_le afterKey
    match heq : afterBlank afterKey with
    | .mark '=' :: written =>
      have hlt : (afterBlank written).length < ts.length := by
        have := length_afterBlank_le written
        rw [heq, List.length_cons] at hle
        omega
      (value? maxDepth (afterBlank written)).map fun (v, r) => (.entry keys last v, r.within (by omega))
    | _ => none

/-- What the front of a line says. -/
def statement? (ts : List Token) : Option (Statement × Shorter ts) :=
  match ts with
  | .mark '[' :: .mark '[' :: rest =>
    match header? rest with
    | some ((keys, last), ⟨.mark ']' :: after, _h⟩) =>
      some (.openNext keys last, ⟨after, by simp only [List.length_cons] at *; omega⟩)
    | _ => none
  | .mark '[' :: rest => (header? rest).map fun ((keys, last), r) => (.openTable keys last, r.behind [.mark '['])
  | ts => entry? ts

/-- What the lines of a document say. -/
def statements? (ts : List Token) : Option (List Statement) :=
  match ts with
  | [] => some []
  | .lineEnd :: rest => statements? rest
  | .blank _ :: rest => statements? rest
  | first :: more =>
    match statement? (first :: more) with
    | none => none
    | some (s, ⟨after, _h⟩) =>
      match afterLine? after with
      | none => none
      | some r => (statements? r.1).map (s :: ·)
termination_by ts.length
decreasing_by
  · simp
  · simp
  · have := r.2
    omega

/-- Carry out statements on a table, the entries under the header before them. -/
def build? (header : List String) (t : Table) : List Statement → Option Table
  | [] => some t
  | .entry path key v :: rest => (t.addUnder header path key v).bind fun t => build? header t rest
  | .openTable path key :: rest => (t.openTable path key).bind fun t => build? (path ++ [key]) t rest
  | .openNext path key :: rest => (t.openNext path key).bind fun t => build? (path ++ [key]) t rest

/-- A text without the mark of its encoding at the front. -/
def withoutMark : List Char → List Char
  | '\ufeff' :: rest => rest
  | s => s

/-- The document that a text writes. -/
def read? (s : String) : Option Json := do
  let cs := unifyLineEnds (withoutMark s.toList)
  if cs.all isPlain then
    let statements ← statements? (← tokens? cs)
    return (← build? [] .empty statements).toJson
  else none

end Schemata.Toml
