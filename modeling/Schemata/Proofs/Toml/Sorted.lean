import Schemata.Proofs.Mapping
import Schemata.Proofs.Node.Encoding
import Schemata.Toml.Document

/-!
# Documents read from TOML

Every table of a document has its keys in order and each once, however its entries were given: after a header, by a path of keys, or
in place (`read?_sorted`).
-/

namespace Schemata

namespace Toml

/-- A document whose objects have their members in order. -/
def Sorted (v : Json) : Prop :=
  v.AllObjects Mapping.Ordered

/-! ## Tables -/

theorem Tree.entriesToJson_eq_map (entries : List (String × Tree)) :
    Tree.entriesToJson entries = entries.map fun entry => (entry.1, entry.2.toJson) := by
  induction entries with
  | nil => rfl
  | cons entry rest ih => rw [Tree.entriesToJson, ih, List.map_cons]

theorem Tree.tablesToJson_eq_map (list : List (List (String × Tree))) :
    Tree.tablesToJson list = list.map fun entries => .obj (Tree.entriesToJson entries) := by
  induction list with
  | nil => rfl
  | cons entries rest ih => rw [Tree.tablesToJson, ih, List.map_cons]

/-- A table is in order if its keys are, and what stands under them. -/
theorem sorted_table_iff (origin : Origin) (entries : Mapping Tree) :
    Sorted (Tree.table origin entries).toJson ↔ entries.Ordered ∧ ∀ entry ∈ entries, Sorted entry.2.toJson := by
  rw [Tree.toJson, Tree.entriesToJson_eq_map, Sorted, Json.allObjects_obj_iff, List.forall_mem_map, Mapping.Ordered, List.pairwise_map]
  rfl

/-- A list of tables is in order if each of them is. -/
theorem sorted_tables_iff (origin : Origin) (list : List (List (String × Tree))) :
    Sorted (Tree.tables list).toJson ↔ ∀ entries ∈ list, Sorted (Tree.table origin entries).toJson := by
  rw [Tree.toJson, Tree.tablesToJson_eq_map, Sorted, Json.allObjects_arr_iff, List.forall_mem_map]
  rfl

namespace Table

variable {t t' : Table} {key : String}

/-- A table stays in order when something in order is put under a key. -/
theorem sorted_set (ht : Sorted t.toJson) {tree : Tree} (htree : Sorted tree.toJson) : Sorted (t.set key tree).toJson := by
  obtain ⟨hordered, hentries⟩ := (sorted_table_iff t.origin t.entries).mp ht
  refine (sorted_table_iff t.origin _).mpr ⟨hordered.insert key tree, fun entry hm => ?_⟩
  rcases Mapping.mem_insert hm with rfl | hm
  · exact htree
  · exact hentries entry hm

/-- What stands under a key of a table in order is in order. -/
theorem sorted_of_get? (ht : Sorted t.toJson) {tree : Tree} (h : t.entries.get? key = some tree) : Sorted tree.toJson :=
  ((sorted_table_iff t.origin t.entries).mp ht).2 _ (Mapping.mem_of_get? h)

/-- A table without entries is in order. -/
theorem sorted_nil (origin : Origin) : Sorted (Table.mk origin []).toJson :=
  (sorted_table_iff origin []).mpr ⟨Mapping.ordered_nil, nofun⟩

/-- A change that keeps tables in order does so at the end of a path. -/
theorem sorted_change {origin : Origin} {path : List String} {f : Table → Option Table}
    (hf : ∀ {inner inner'}, f inner = some inner' → Sorted inner.toJson → Sorted inner'.toJson)
    (h : t.change origin path f = some t') (ht : Sorted t.toJson) : Sorted t'.toJson := by
  induction path generalizing t t' with
  | nil => exact hf h ht
  | cons key rest ih =>
    unfold change at h
    split at h
    · obtain ⟨inner, hinner, rfl⟩ := Option.map_eq_some_iff.mp h
      exact sorted_set ht (ih hinner (sorted_nil origin))
    · cases h
    · rename_i o entries hget
      split at h
      · cases h
      · obtain ⟨inner, hinner, rfl⟩ := Option.map_eq_some_iff.mp h
        exact sorted_set ht (ih hinner (sorted_of_get? ht hget))
    · rename_i list hget
      split at h
      · cases h
      · rename_i entries hlast
        obtain ⟨inner, hinner, rfl⟩ := Option.map_eq_some_iff.mp h
        have hlist := (sorted_tables_iff .opened list).mp (sorted_of_get? ht hget)
        have hlastSorted := ih hinner (hlist entries (List.mem_of_getLast? hlast))
        refine sorted_set ht ((sorted_tables_iff .opened _).mpr fun entries' hm => ?_)
        rcases List.mem_append.mp hm with hm | hm
        · exact hlist entries' (List.dropLast_subset list hm)
        · cases List.mem_singleton.mp hm
          exact hlastSorted

/-- An entry with a value in order keeps a table in order. -/
theorem sorted_addEntry {path : List String} {v : Json} (hv : Sorted v) (h : t.addEntry path key v = some t')
    (ht : Sorted t.toJson) : Sorted t'.toJson := by
  refine sorted_change (fun {inner inner'} h hinner => ?_) h ht
  split at h
  · cases h
  · split at h
    · cases h
    · cases h
      exact sorted_set hinner hv

/-- So does the header of a table. -/
theorem sorted_openTable {path : List String} (h : t.openTable path key = some t') (ht : Sorted t.toJson) : Sorted t'.toJson := by
  refine sorted_change (fun {parent parent'} h hparent => ?_) h ht
  split at h
  · cases h
    exact sorted_set hparent (sorted_nil .opened)
  · rename_i entries hget
    cases h
    have hentries : Sorted (Tree.table .passed entries).toJson := sorted_of_get? hparent hget
    exact sorted_set hparent hentries
  · cases h

/-- So does the header of one more table of a list. -/
theorem sorted_openNext {path : List String} (h : t.openNext path key = some t') (ht : Sorted t.toJson) : Sorted t'.toJson := by
  refine sorted_change (fun {parent parent'} h hparent => ?_) h ht
  split at h
  · cases h
    refine sorted_set hparent ((sorted_tables_iff .opened _).mpr fun entries hm => ?_)
    cases List.mem_singleton.mp hm
    exact sorted_nil .opened
  · rename_i list hget
    cases h
    have hlist := (sorted_tables_iff .opened list).mp (sorted_of_get? hparent hget)
    refine sorted_set hparent ((sorted_tables_iff .opened _).mpr fun entries hm => ?_)
    rcases List.mem_append.mp hm with hm | hm
    · exact hlist entries hm
    · cases List.mem_singleton.mp hm
      exact sorted_nil .opened
  · cases h

end Table

/-! ## Values -/

theorem sorted_bool (b : Bool) : Sorted (.bool b) :=
  fun _ hm => nomatch hm

theorem sorted_num (x : Number) : Sorted (.num x) :=
  fun _ hm => nomatch hm

theorem sorted_obj_nil : Sorted (.obj []) :=
  (Json.allObjects_obj_iff []).mpr ⟨Mapping.ordered_nil, nofun⟩

/-- An object is in order if the values of its members are. -/
theorem sorted_object {members : List (String × Json)} (h : ∀ entry ∈ members, Sorted entry.2) : Sorted (Json.object members) :=
  (Json.allObjects_obj_iff _).mpr
    ⟨Mapping.ordered_ofList members, fun entry hm => h entry ((Mapping.mem_insertAll hm).resolve_left nofun)⟩

variable {v : Json} {negative : Bool}

/-- A whole number has no members. -/
theorem sorted_of_whole? {n : Nat} (h : whole? negative n = some v) : Sorted v := by
  unfold whole? at h
  split at h
  · cases h
    exact sorted_num _
  · split at h
    · cases h
      exact sorted_num _
    · cases h

theorem sorted_of_based? {base : Nat} {s : List Char} (h : based? base s = some v) : Sorted v := by
  obtain ⟨ds, -, h⟩ := Option.bind_eq_some_iff.mp h
  exact sorted_of_whole? h

theorem sorted_of_integer? {s : List Char} (h : integer? s = some v) : Sorted v := by
  unfold integer? at h
  split at h
  · exact sorted_of_based? h
  · exact sorted_of_based? h
  · exact sorted_of_based? h
  · obtain ⟨ds, -, h⟩ := Option.bind_eq_some_iff.mp h
    exact sorted_of_whole? h

theorem sorted_of_decimalNumber? {whole fraction : List Char} {exponent : Int}
    (h : decimalNumber? negative whole fraction exponent = some v) : Sorted v := by
  unfold decimalNumber? at h
  split at h
  · cases h
    exact sorted_num _
  · split at h
    · cases h
      exact sorted_num _
    · cases h

theorem sorted_of_fractional? {s : List Char} (h : fractional? s = some v) : Sorted v := by
  obtain ⟨whole, -, h⟩ := Option.bind_eq_some_iff.mp h
  split at h
  · obtain ⟨fraction, -, h⟩ := Option.bind_eq_some_iff.mp h
    split at h
    · exact sorted_of_decimalNumber? h
    · split at h
      · obtain ⟨exponent, -, h⟩ := Option.bind_eq_some_iff.mp h
        exact sorted_of_decimalNumber? h
      · cases h
  · split at h
    · obtain ⟨exponent, -, h⟩ := Option.bind_eq_some_iff.mp h
      exact sorted_of_decimalNumber? h
    · cases h
  · cases h

/-- A bare run of characters writes a value without members. -/
theorem sorted_of_scalarValue? {s : List Char} (h : scalarValue? s = some v) : Sorted v := by
  unfold scalarValue? at h
  split at h
  · cases h
    exact sorted_bool true
  · split at h
    · cases h
      exact sorted_bool false
    · split at h
      · cases h
        exact sorted_num _
      · split at h
        · cases h
          exact sorted_obj_nil
        · rcases Option.or_eq_some_iff.mp h with h | ⟨-, h⟩
          · exact sorted_of_integer? h
          · exact sorted_of_fractional? h

theorem sorted_of_bare? {ts : List Token} {r : Shorter ts} (h : bare? ts = some (v, r)) : Sorted v := by
  unfold bare? at h
  split at h
  · cases h
  · have halone : ∀ {ts : List Token} {r r' : Shorter ts} {cs : List Char},
        ((scalarValue? cs).map fun v => (v, r')) = some (v, r) → Sorted v := by
      intro ts r r' cs h
      obtain ⟨v', hv', heq⟩ := Option.map_eq_some_iff.mp h
      cases heq
      exact sorted_of_scalarValue? hv'
    split at h
    · split at h
      · split at h
        · cases h
          exact sorted_obj_nil
        · exact halone h
      · exact halone h
    · exact halone h

/-- Every value that is read from at most so many tokens is in order. -/
def ReadsSorted (n : Nat) : Prop :=
  ∀ ⦃depth : Nat⦄ ⦃ts : List Token⦄ ⦃v : Json⦄ ⦃r : Shorter ts⦄,
    ts.length ≤ n → value? depth ts = some (v, r) → Sorted v

/-- Where values are in order, so are the items of an array. -/
theorem ReadsSorted.items {n : Nat} (hn : ReadsSorted n) {depth : Nat} {ts : List Token} {vs : List Json} {r : Shorter ts}
    (hts : ts.length ≤ n) (h : items? depth ts = some (vs, r)) : ∀ v ∈ vs, Sorted v := by
  induction hlen : ts.length using Nat.strong_induction_on generalizing ts vs r with
  | _ len ih =>
    have hle := length_afterLoose_le ts
    unfold items? at h
    split at h
    · cases h
      intro v hm
      cases hm
    · rename_i first more hfirst
      rw [hfirst] at hle
      split at h
      · cases h
      · rename_i v after hafter hv
        have hle2 := length_afterLoose_le after
        have hsorted : Sorted v := hn (hle.trans hts) hv
        split at h
        · cases h
          intro v hm
          cases List.mem_singleton.mp hm
          exact hsorted
        · rename_i rest hrest
          rw [hrest, List.length_cons] at hle2
          obtain ⟨⟨others, r'⟩, hothers, heq⟩ := Option.map_eq_some_iff.mp h
          cases heq
          intro v hm
          rcases List.mem_cons.mp hm with rfl | hm
          · exact hsorted
          · exact ih rest.length (by omega) (by omega) hothers rfl v hm
        · cases h
    · cases h

/-- Where values are in order, an inline table stays in order when its entries are added. -/
theorem ReadsSorted.entries {n : Nat} (hn : ReadsSorted n) {depth : Nat} {t t' : Table} {ts : List Token} {r : Shorter ts}
    (hts : ts.length ≤ n) (h : entries? depth t ts = some (t', r)) (ht : Sorted t.toJson) : Sorted t'.toJson := by
  induction hlen : ts.length using Nat.strong_induction_on generalizing t ts r with
  | _ len ih =>
    have hle := length_afterBlank_le ts
    unfold entries? at h
    split at h
    · cases h
    · rename_i keys last afterKey hkey hpath
      have hle2 := length_afterBlank_le afterKey
      split at h
      · rename_i written hwritten
        rw [hwritten, List.length_cons] at hle2
        have hle3 := length_afterBlank_le written
        split at h
        · cases h
        · rename_i v afterValue hvalue hv
          have hle4 := length_afterBlank_le afterValue
          have hsorted : Sorted v := hn (by omega) hv
          split at h
          · rename_i hadd hend
            cases h
            exact Table.sorted_addEntry hsorted hadd ht
          · rename_i added rest hadd hend
            rw [hend, List.length_cons] at hle4
            obtain ⟨⟨filled, r'⟩, hrest, heq⟩ := Option.map_eq_some_iff.mp h
            cases heq
            exact ih rest.length (by omega) (by omega) hrest (Table.sorted_addEntry hsorted hadd ht) rfl
          · cases h
      · cases h

/-- Every value that is read is in order. -/
theorem readsSorted (n : Nat) : ReadsSorted n := by
  -- The items of an array and the entries of an inline table are read from fewer tokens.
  induction n using Nat.strong_induction_on with
  | _ n ih =>
    intro depth ts v r hts h
    unfold value? at h
    split at h
    · cases h
      exact Json.allObjects_str _
    · rename_i rest
      rw [List.length_cons] at hts
      split at h
      · cases h
      · obtain ⟨⟨vs, r'⟩, hvs, heq⟩ := Option.map_eq_some_iff.mp h
        cases heq
        exact (Json.allObjects_arr_iff vs).mpr ((ih rest.length hts).items le_rfl hvs)
    · rename_i rest
      rw [List.length_cons] at hts
      split at h
      · cases h
      · split at h
        · cases h
          exact sorted_obj_nil
        · obtain ⟨⟨t, r'⟩, ht, heq⟩ := Option.map_eq_some_iff.mp h
          cases heq
          exact (ih rest.length hts).entries le_rfl ht (Table.sorted_nil .opened)
    · exact sorted_of_bare? h

/-! ## Documents -/

/-- The value of an entry is in order. -/
def Statement.Sorted : Statement → Prop
  | .entry _ _ v => Toml.Sorted v
  | .openTable _ _ => True
  | .openNext _ _ => True

theorem sorted_of_entry? {ts : List Token} {statement : Statement} {r : Shorter ts} (h : entry? ts = some (statement, r)) :
    statement.Sorted := by
  unfold entry? at h
  split at h
  · cases h
  · split at h
    · obtain ⟨⟨v, r'⟩, hv, heq⟩ := Option.map_eq_some_iff.mp h
      cases heq
      exact readsSorted _ le_rfl hv
    · cases h

theorem sorted_of_statement? {ts : List Token} {statement : Statement} {r : Shorter ts} (h : statement? ts = some (statement, r)) :
    statement.Sorted := by
  unfold statement? at h
  split at h
  · split at h
    · cases h
      trivial
    · cases h
  · obtain ⟨⟨⟨keys, last⟩, r'⟩, -, heq⟩ := Option.map_eq_some_iff.mp h
    cases heq
    trivial
  · exact sorted_of_entry? h

/-- All that the lines of a document say is in order. -/
theorem sorted_of_statements? {ts : List Token} {statements : List Statement} (h : statements? ts = some statements) :
    ∀ statement ∈ statements, statement.Sorted := by
  fun_induction statements? ts generalizing statements with
  | case1 =>
    cases h
    intro statement hm
    cases hm
  | case2 rest ih => exact ih h
  | case3 _ rest ih => exact ih h
  | case4 => cases h
  | case5 => cases h
  | case6 first more _ _ statement after _ hstatement r _ ih =>
    obtain ⟨later, hlater, rfl⟩ := Option.map_eq_some_iff.mp h
    intro statement' hm
    rcases List.mem_cons.mp hm with rfl | hm
    · exact sorted_of_statement? hstatement
    · exact ih hlater statement' hm

/-- Statements in order keep a table in order. -/
theorem sorted_build? {header : List String} {t t' : Table} {statements : List Statement}
    (hs : ∀ statement ∈ statements, statement.Sorted) (h : build? header t statements = some t') (ht : Sorted t.toJson) :
    Sorted t'.toJson := by
  induction statements generalizing header t with
  | nil =>
    cases h
    exact ht
  | cons statement rest ih =>
    obtain ⟨hstatement, hrest⟩ := List.forall_mem_cons.mp hs
    cases statement with
    | entry path key v =>
      obtain ⟨added, hadded, h⟩ := Option.bind_eq_some_iff.mp h
      exact ih hrest h (Table.sorted_change (Table.sorted_addEntry hstatement) hadded ht)
    | openTable path key =>
      obtain ⟨opened, hopened, h⟩ := Option.bind_eq_some_iff.mp h
      exact ih hrest h (Table.sorted_openTable hopened ht)
    | openNext path key =>
      obtain ⟨opened, hopened, h⟩ := Option.bind_eq_some_iff.mp h
      exact ih hrest h (Table.sorted_openNext hopened ht)

/-- A document is an object, and every object in it has its members in order. -/
theorem read?_sorted {s : String} {v : Json} (h : read? s = some v) : ∃ members : Members, v = .obj members ∧ Sorted v := by
  unfold read? at h
  simp only at h
  split at h
  · obtain ⟨tokens, -, h⟩ := Option.bind_eq_some_iff.mp h
    obtain ⟨statements, hstatements, h⟩ := Option.bind_eq_some_iff.mp h
    obtain ⟨t, ht, h⟩ := Option.bind_eq_some_iff.mp h
    cases h
    exact ⟨_, rfl, sorted_build? (sorted_of_statements? hstatements) ht (Table.sorted_nil .opened)⟩
  · cases h

end Toml

end Schemata
