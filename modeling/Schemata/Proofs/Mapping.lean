import Mathlib.Data.String.Basic
import Schemata.Mapping

/-!
# Writes under different keys

Writes under different keys can be made in either order (`insert_comm`), and so can runs of writes that have no key in common
(`insertAll_comm`). A second write under a key takes the place of the first. After a run of writes under distinct keys, what is found
under a key is what was written there, or else what was there before (`get?_insertAll`).
-/

namespace Schemata.Mapping

variable {α : Type}

/-! ## Where a write goes -/

/-- A key before the first goes in front. -/
theorem insert_cons_of_lt {key k : String} (h : key < k) (value v : α) (rest : Mapping α) :
    insert ((k, v) :: rest) key value = (key, value) :: (k, v) :: rest :=
  if_pos h

/-- The first key gets the new value. -/
theorem insert_cons_self (key : String) (value v : α) (rest : Mapping α) :
    insert ((key, v) :: rest) key value = (key, value) :: rest := by
  rw [insert, if_neg (String.lt_irrefl key), if_pos rfl]

/-- A key after the first goes further down. -/
theorem insert_cons_of_gt {key k : String} (h : k < key) (value v : α) (rest : Mapping α) :
    insert ((k, v) :: rest) key value = (k, v) :: insert rest key value := by
  have hne : key ≠ k := by
    rintro rfl
    exact String.lt_irrefl key h
  rw [insert, if_neg (String.lt_asymm h), if_neg hne]

/-! ## Two writes -/

/-- Two writes come to the same in either order, when the key of one is before that of the other. -/
theorem insert_comm_of_lt (m : Mapping α) {a b : String} (h : a < b) (v w : α) :
    (m.insert a v).insert b w = (m.insert b w).insert a v := by
  induction m with
  | nil => exact (insert_cons_of_gt h w v []).trans (insert_cons_of_lt h v w []).symm
  | cons entry rest ih =>
    obtain ⟨k, u⟩ := entry
    -- Where the two keys go depends on where they stand to the first key of the mapping.
    rcases lt_trichotomy a k with hak | rfl | hka
    · rw [insert_cons_of_lt hak, insert_cons_of_gt h]
      rcases lt_trichotomy b k with hbk | rfl | hkb
      · rw [insert_cons_of_lt hbk, insert_cons_of_lt h]
      · rw [insert_cons_self, insert_cons_of_lt h]
      · rw [insert_cons_of_gt hkb, insert_cons_of_lt hak]
    · rw [insert_cons_self, insert_cons_of_gt h, insert_cons_of_gt h, insert_cons_self]
    · have hkb := String.lt_trans hka h
      rw [insert_cons_of_gt hka, insert_cons_of_gt hkb, insert_cons_of_gt hkb, insert_cons_of_gt hka, ih]

/-- Writes under different keys can be made in either order. -/
theorem insert_comm (m : Mapping α) {a b : String} (h : a ≠ b) (v w : α) :
    (m.insert a v).insert b w = (m.insert b w).insert a v := by
  rcases lt_trichotomy a b with hab | he | hba
  · exact insert_comm_of_lt m hab v w
  · exact absurd he h
  · exact (insert_comm_of_lt m hba w v).symm

/-- A second write under a key takes the place of the first. -/
theorem insert_insert (m : Mapping α) (key : String) (v w : α) : (m.insert key v).insert key w = m.insert key w := by
  induction m with
  | nil => exact insert_cons_self key w v []
  | cons entry rest ih =>
    obtain ⟨k, u⟩ := entry
    rcases lt_trichotomy key k with hlt | rfl | hgt
    · rw [insert_cons_of_lt hlt, insert_cons_self, insert_cons_of_lt hlt]
    · rw [insert_cons_self, insert_cons_self, insert_cons_self]
    · rw [insert_cons_of_gt hgt, insert_cons_of_gt hgt, insert_cons_of_gt hgt, ih]

/-! ## Runs of writes -/

/-- A write can be made before or after a run of writes under other keys. -/
theorem insertAll_insert (m : Mapping α) {key : String} {entries : List (String × α)} (h : key ∉ keys entries) (value : α) :
    (m.insert key value).insertAll entries = (m.insertAll entries).insert key value := by
  induction entries generalizing m with
  | nil => rfl
  | cons entry rest ih =>
    obtain ⟨hne, hrest⟩ := not_or.mp (mt List.mem_cons.mpr h)
    show ((m.insert key value).insert entry.1 entry.2).insertAll rest = ((m.insert entry.1 entry.2).insertAll rest).insert key value
    rw [insert_comm m hne, ih _ hrest]

/-- Runs of writes with no key in common can be made in either order. -/
theorem insertAll_comm (m : Mapping α) {entries more : List (String × α)} (h : (keys entries).Disjoint (keys more)) :
    (m.insertAll entries).insertAll more = (m.insertAll more).insertAll entries := by
  induction entries generalizing m with
  | nil => rfl
  | cons entry rest ih =>
    obtain ⟨hentry, hrest⟩ := List.disjoint_cons_left.mp h
    show ((m.insert entry.1 entry.2).insertAll rest).insertAll more = ((m.insertAll more).insert entry.1 entry.2).insertAll rest
    rw [ih _ hrest, insertAll_insert m hentry]

/-! ## What is found after writes -/

/-- Nothing is found exactly under what is no key. -/
theorem get?_eq_none_iff (m : Mapping α) (key : String) : m.get? key = none ↔ key ∉ m.keys := by
  induction m with
  | nil => simp [keys]
  | cons entry rest ih =>
    obtain ⟨k, v⟩ := entry
    by_cases hk : k = key
    · simp [keys, hk]
    · rw [get?_cons, if_neg hk, ih]
      simp [keys, Ne.symm hk]

/-- The keys of a mapping in order are distinct. -/
theorem Ordered.nodup_keys {m : Mapping α} (h : m.Ordered) : m.keys.Nodup := by
  rw [keys, List.nodup_iff_pairwise_ne, List.pairwise_map]
  refine h.imp ?_
  intro a b hlt heq
  rw [heq] at hlt
  exact String.lt_irrefl _ hlt

/-- Of writes under distinct keys, each is found, and under other keys what was there before. -/
theorem get?_insertAll (m : Mapping α) {entries : Mapping α} (h : entries.keys.Nodup) (key : String) :
    (m.insertAll entries).get? key = (entries.get? key).or (m.get? key) := by
  induction entries generalizing m with
  | nil => rfl
  | cons entry rest ih =>
    obtain ⟨k, v⟩ := entry
    obtain ⟨hk, hrest⟩ := List.nodup_cons.mp h
    show ((m.insert k v).insertAll rest).get? key = _
    rw [ih _ hrest, get?_cons]
    by_cases hkey : k = key
    · subst hkey
      rw [(get?_eq_none_iff rest k).mpr hk, get?_insert_self, if_pos rfl, Option.none_or, Option.some_or]
    · rw [get?_insert_of_ne m v hkey, if_neg hkey]

/-- A run of writes under other keys leaves what is under a key alone. -/
theorem get?_insertAll_of_notMem (m : Mapping α) {entries : List (String × α)} {key : String} (h : key ∉ keys entries) :
    (m.insertAll entries).get? key = m.get? key := by
  induction entries generalizing m with
  | nil => rfl
  | cons entry rest ih =>
    obtain ⟨hne, hrest⟩ := not_or.mp (mt List.mem_cons.mpr h)
    exact (ih _ hrest).trans (get?_insert_of_ne m entry.2 (Ne.symm hne))

/-- Under a key that is written, one of the values written there is found. -/
theorem exists_get?_insertAll (m : Mapping α) {entries : List (String × α)} {key : String} (h : key ∈ keys entries) :
    ∃ value, (key, value) ∈ entries ∧ (m.insertAll entries).get? key = some value := by
  induction entries generalizing m with
  | nil => cases h
  | cons entry rest ih =>
    obtain ⟨k, v⟩ := entry
    by_cases hrest : key ∈ keys rest
    · obtain ⟨value, hmem, hget⟩ := ih (m.insert k v) hrest
      exact ⟨value, List.mem_cons_of_mem _ hmem, hget⟩
    · obtain rfl : key = k := (List.mem_cons.mp h).resolve_right hrest
      exact ⟨v, List.mem_cons_self, (get?_insertAll_of_notMem _ hrest).trans (get?_insert_self m key v)⟩

/-- What is found under a key is the value of an entry. -/
theorem mem_of_get? {m : Mapping α} {key : String} {value : α} (h : m.get? key = some value) : (key, value) ∈ m := by
  induction m with
  | nil => cases h
  | cons entry rest ih =>
    obtain ⟨k, v⟩ := entry
    rw [get?_cons] at h
    split at h
    · rename_i hk
      cases h
      exact hk ▸ List.mem_cons_self
    · exact List.mem_cons_of_mem _ (ih h)

/-- The entries after a run of writes are old ones or those written. -/
theorem mem_insertAll {m : Mapping α} {entries : List (String × α)} {entry : String × α} (h : entry ∈ m.insertAll entries) :
    entry ∈ m ∨ entry ∈ entries := by
  induction entries generalizing m with
  | nil => exact .inl h
  | cons first rest ih =>
    rcases ih h with h | h
    · rcases mem_insert h with rfl | h
      · exact .inr List.mem_cons_self
      · exact .inl h
    · exact .inr (List.mem_cons_of_mem _ h)

/-- An entry stays where it is while other keys are written. -/
theorem mem_insert_of_mem {m : Mapping α} {entry : String × α} (h : entry ∈ m) {key : String} (hne : entry.1 ≠ key) (value : α) :
    entry ∈ m.insert key value := by
  induction m with
  | nil => cases h
  | cons first rest ih =>
    obtain ⟨k, v⟩ := first
    unfold insert
    split
    · exact List.mem_cons_of_mem _ h
    · split
      · rename_i heq
        subst heq
        rcases List.mem_cons.mp h with rfl | h
        · exact absurd rfl hne
        · exact List.mem_cons_of_mem _ h
      · rcases List.mem_cons.mp h with rfl | h
        · exact List.mem_cons_self
        · exact List.mem_cons_of_mem _ (ih h)

/-- So it does during a run of writes under other keys. -/
theorem mem_insertAll_of_mem {m : Mapping α} {entry : String × α} (h : entry ∈ m) {entries : Mapping α}
    (hne : entry.1 ∉ entries.keys) : entry ∈ m.insertAll entries := by
  induction entries generalizing m with
  | nil => exact h
  | cons first rest ih =>
    obtain ⟨hfirst, hrest⟩ := not_or.mp (mt List.mem_cons.mpr hne)
    exact ih (mem_insert_of_mem h hfirst first.2) hrest

end Schemata.Mapping
