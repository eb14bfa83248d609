/-!
# Mappings

A mapping is a list of entries in increasing order of key, by code point. `insert` keeps the order and replaces the value of a
key that is already there, so a key has one entry and the last value written wins.
-/

namespace Schemata

/-- Values under text keys, in key order. -/
abbrev Mapping (α : Type) := List (String × α)

namespace Mapping

variable {α β : Type}

/-- Every key comes strictly before the keys after it. -/
def Ordered (m : Mapping α) : Prop :=
  m.Pairwise fun a b => a.1 < b.1

/-- The value under a key. -/
def get? : Mapping α → String → Option α
  | [], _ => none
  | (k, v) :: rest, key => if k = key then some v else get? rest key

/-- Whether a key has a value. -/
def contains (m : Mapping α) (key : String) : Bool :=
  (m.get? key).isSome

/-- The keys, in order. -/
def keys (m : Mapping α) : List String :=
  m.map Prod.fst

/-- Write a value under a key, at the key's place. -/
def insert : Mapping α → String → α → Mapping α
  | [], key, value => [(key, value)]
  | (k, v) :: rest, key, value =>
    if key < k then (key, value) :: (k, v) :: rest
    else if key = k then (key, value) :: rest
    else (k, v) :: insert rest key value

/-- Write entries one after another. -/
def insertAll (m : Mapping α) (entries : List (String × α)) : Mapping α :=
  entries.foldl (fun acc entry => acc.insert entry.1 entry.2) m

/-- The mapping that entries in any order make. -/
def ofList (entries : List (String × α)) : Mapping α :=
  insertAll [] entries

/-- Apply a function to every value. -/
def mapValues (f : α → β) (m : Mapping α) : Mapping β :=
  m.map fun entry => (entry.1, f entry.2)

@[simp] theorem get?_nil (key : String) : get? ([] : Mapping α) key = none := rfl

@[simp] theorem get?_cons (k : String) (v : α) (rest : Mapping α) (key : String) :
    get? ((k, v) :: rest) key = if k = key then some v else get? rest key := rfl

/-- A value just written is the one found. -/
theorem get?_insert_self (m : Mapping α) (key : String) (value : α) :
    (m.insert key value).get? key = some value := by
  induction m with
  | nil => simp [insert]
  | cons entry rest ih =>
    obtain ⟨k, v⟩ := entry
    unfold insert
    split
    · simp
    · split
      · simp
      · rename_i h
        simp [Ne.symm h, ih]

/-- Writing under one key leaves every other key alone. -/
theorem get?_insert_of_ne (m : Mapping α) {key other : String} (value : α) (h : key ≠ other) :
    (m.insert key value).get? other = m.get? other := by
  induction m with
  | nil => simp [insert, h]
  | cons entry rest ih =>
    obtain ⟨k, v⟩ := entry
    unfold insert
    split
    · simp [h]
    · split
      · rename_i hk
        subst hk
        simp [h]
      · by_cases hk : k = other <;> simp [hk, ih]

/-- The entries after a write are old ones or the new one. -/
theorem mem_insert {m : Mapping α} {key : String} {value : α} {entry : String × α}
    (h : entry ∈ m.insert key value) : entry = (key, value) ∨ entry ∈ m := by
  induction m with
  | nil => simpa [insert] using h
  | cons first rest ih =>
    obtain ⟨k, v⟩ := first
    unfold insert at h
    split at h
    · simpa using h
    · split at h
      · rcases List.mem_cons.mp h with h | h
        · exact Or.inl h
        · exact Or.inr (List.mem_cons_of_mem _ h)
      · rcases List.mem_cons.mp h with h | h
        · exact Or.inr (h ▸ List.mem_cons_self)
        · exact (ih h).imp id (List.mem_cons_of_mem _)

theorem ordered_nil : Ordered ([] : Mapping α) := List.Pairwise.nil

/-- A write keeps the keys in order. -/
theorem Ordered.insert {m : Mapping α} (h : m.Ordered) (key : String) (value : α) :
    Ordered (m.insert key value) := by
  induction m with
  | nil => simp [Mapping.insert, Ordered]
  | cons entry rest ih =>
    obtain ⟨k, v⟩ := entry
    have hrest : ∀ a ∈ rest, k < a.1 := fun a ha => List.rel_of_pairwise_cons h ha
    unfold Mapping.insert
    split
    · rename_i hlt
      refine List.Pairwise.cons ?_ h
      intro a ha
      rcases List.mem_cons.mp ha with rfl | ha
      · exact hlt
      · exact String.lt_trans hlt (hrest a ha)
    · split
      · rename_i heq
        subst heq
        exact List.Pairwise.cons hrest h.of_cons
      · rename_i hnlt hne
        refine List.Pairwise.cons ?_ (ih h.of_cons)
        intro a ha
        rcases mem_insert ha with rfl | ha
        · exact String.not_le.mp fun hle => hne (String.le_antisymm hle (String.not_lt.mp hnlt))
        · exact hrest a ha

/-- Any run of writes keeps the keys in order. -/
theorem Ordered.insertAll {m : Mapping α} (h : m.Ordered) (entries : List (String × α)) :
    Ordered (m.insertAll entries) := by
  induction entries generalizing m with
  | nil => exact h
  | cons entry rest ih => exact ih (h.insert entry.1 entry.2)

/-- Entries in any order make an ordered mapping. -/
theorem ordered_ofList (entries : List (String × α)) : Ordered (ofList entries) :=
  ordered_nil.insertAll entries

end Mapping

end Schemata
