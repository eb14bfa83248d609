import Schemata.Json.Value

/-!
# Building tables

The entries of a document come one by one, each with a path of keys, between headers that open tables and lists of tables. A table
is opened by a header at most once, and what has been given as a value cannot be entered. `Table.toJson` forgets how each table came
about.
-/

namespace Schemata.Toml

/-- How a table came about: opened by a header, passed through by the path of a header, or passed through by the path of an entry. -/
inductive Origin where
  | opened
  | passed
  | dotted
deriving DecidableEq

/-- What stands under a key: a value, a table, or a list of tables opened one after another. -/
inductive Tree where
  | value (v : Json)
  | table (origin : Origin) (entries : List (String × Tree))
  | tables (list : List (List (String × Tree)))

/-- A table that is being built. -/
structure Table where
  origin : Origin
  entries : Mapping Tree

namespace Table

/-- A table opened without entries. -/
def empty : Table := ⟨.opened, []⟩

/-- Put something under a key. -/
def set (t : Table) (key : String) (tree : Tree) : Table :=
  { t with entries := t.entries.insert key tree }

/-- Change the table at the end of a path, making the tables on the way that are missing. The path of an entry does not lead into
tables that a header has opened; of a list of tables the last is meant. -/
def change (origin : Origin) (path : List String) (f : Table → Option Table) (t : Table) : Option Table :=
  match path with
  | [] => f t
  | key :: rest =>
    match t.entries.get? key with
    | none => (change origin rest f ⟨origin, []⟩).map fun inner => t.set key (.table inner.origin inner.entries)
    | some (.value _) => none
    | some (.table o entries) =>
      if origin = .dotted ∧ o = .opened then none
      else (change origin rest f ⟨o, entries⟩).map fun inner => t.set key (.table inner.origin inner.entries)
    | some (.tables list) =>
      match list.getLast? with
      | none => none
      | some entries =>
        (change origin rest f ⟨.opened, entries⟩).map fun inner => t.set key (.tables (list.dropLast ++ [inner.entries]))

/-- Add an entry to a table. Its path leads through tables of such paths alone, and its key is new. -/
def addEntry (path : List String) (key : String) (v : Json) (t : Table) : Option Table :=
  t.change .dotted path fun inner =>
    if (inner.origin = .dotted) ↔ path = [] then none
    else if inner.entries.contains key then none
    else some (inner.set key (.value v))

/-- Open a table by a header. -/
def openTable (path : List String) (key : String) (t : Table) : Option Table :=
  t.change .passed path fun parent =>
    match parent.entries.get? key with
    | none => some (parent.set key (.table .opened []))
    | some (.table .passed entries) => some (parent.set key (.table .opened entries))
    | some _ => none

/-- Open one more table of a list by a header. -/
def openNext (path : List String) (key : String) (t : Table) : Option Table :=
  t.change .passed path fun parent =>
    match parent.entries.get? key with
    | none => some (parent.set key (.tables [[]]))
    | some (.tables list) => some (parent.set key (.tables (list ++ [[]])))
    | some _ => none

/-- Add an entry to the table that the last header has opened. -/
def addUnder (header : List String) (path : List String) (key : String) (v : Json) (t : Table) : Option Table :=
  t.change .passed header (addEntry path key v)

end Table

mutual

/-- What stands under a key, as a document. -/
def Tree.toJson : Tree → Json
  | .value v => v
  | .table _ entries => .obj (Tree.entriesToJson entries)
  | .tables list => .arr (Tree.tablesToJson list)
termination_by structural t => t

/-- The entries of a table, as members. -/
def Tree.entriesToJson : List (String × Tree) → List (String × Json)
  | [] => []
  | (key, t) :: rest => (key, t.toJson) :: Tree.entriesToJson rest
termination_by structural es => es

/-- A list of tables, as items. -/
def Tree.tablesToJson : List (List (String × Tree)) → List Json
  | [] => []
  | entries :: rest => .obj (Tree.entriesToJson entries) :: Tree.tablesToJson rest
termination_by structural ts => ts

end

/-- A table as a document. -/
def Table.toJson (t : Table) : Json :=
  .obj (Tree.entriesToJson t.entries)

end Schemata.Toml
