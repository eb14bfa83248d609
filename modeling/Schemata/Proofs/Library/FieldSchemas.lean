import Schemata.Library.Arguments
import Schemata.Proofs.Outcome

/-!
# Schemas of fields

A shape stands for objects when each of its fields is a schema, or a shape that stands for objects in turn (`Term.Describes`). Where
it does not, the first field that is neither, from the top down, is the one that is reported (`strayFields`).
-/

namespace Schemata

namespace Mapping

variable {α : Type}

/-- Entries are in order when their keys are. -/
theorem ordered_iff_keys (m : Mapping α) : m.Ordered ↔ m.keys.Pairwise (· < ·) := by
  rw [keys, List.pairwise_map]
  rfl

/-- A key after all others is written at the end. -/
theorem insert_of_forall_lt {m : Mapping α} {key : String} (value : α) (h : ∀ entry ∈ m, entry.1 < key) :
    m.insert key value = m ++ [(key, value)] := by
  induction m with
  | nil => rfl
  | cons entry rest ih =>
    obtain ⟨k, v⟩ := entry
    have hk : k < key := h (k, v) List.mem_cons_self
    have hne : key ≠ k := by
      rintro rfl
      exact String.lt_irrefl key hk
    rw [insert, if_neg (String.lt_asymm hk), if_neg hne, ih fun entry he => h entry (List.mem_cons_of_mem _ he)]
    rfl

/-- Entries in order are written one after another. -/
theorem insertAll_of_ordered {m entries : Mapping α} (h : Ordered (m ++ entries)) : m.insertAll entries = m ++ entries := by
  induction entries generalizing m with
  | nil => simp [insertAll]
  | cons entry rest ih =>
    have hlt : ∀ e ∈ m, e.1 < entry.1 := fun e he => (List.pairwise_append.mp h).2.2 e he entry List.mem_cons_self
    show (m.insert entry.1 entry.2).insertAll rest = m ++ entry :: rest
    rw [insert_of_forall_lt entry.2 hlt, ih (by simpa using h), List.append_assoc]
    rfl

/-- Entries in order are the mapping that they make. -/
theorem ofList_eq_of_ordered {entries : Mapping α} (h : entries.Ordered) : ofList entries = entries :=
  insertAll_of_ordered (m := []) h

end Mapping

/-- Objects that need not be there, with fields of the given schemas. -/
def Schema.objectOf (fields : List (String × Schema)) : Schema :=
  { Schema.ofTag .object with kind := .object (Mapping.ofList fields) }

mutual

/-- A term describes what a schema accepts: it is the schema, or a shape of objects. -/
inductive Term.Describes : Term → Schema → Prop where
  | schema (s : Schema) : Term.Describes (.schema s) s
  | shape {fields : List (String × Term)} {schemas : List (String × Schema)} (h : FieldsDescribe fields schemas) :
      Term.Describes (.shape fields) (Schema.objectOf schemas)

/-- The fields of a shape describe what schemas under the same keys accept. -/
inductive FieldsDescribe : List (String × Term) → List (String × Schema) → Prop where
  | nil : FieldsDescribe [] []
  | cons {key : String} {term : Term} {s : Schema} {fields : List (String × Term)} {schemas : List (String × Schema)}
      (head : Term.Describes term s) (tail : FieldsDescribe fields schemas) :
      FieldsDescribe ((key, term) :: fields) ((key, s) :: schemas)

end

mutual

/-- The fields of a shape that are neither schemas nor shapes, those of a shape in a field in the place of the field. -/
def strayFields : List (String × Term) → List (String × Term)
  | [] => []
  | (key, term) :: rest => strayField key term ++ strayFields rest

/-- What is neither a schema nor a shape in a field. -/
def strayField (key : String) : Term → List (String × Term)
  | .schema _ => []
  | .shape nested => strayFields nested
  | other => [(key, other)]

end

namespace Arguments

variable (args : Arguments) (position : Nat)

/-- What is said of a field that is neither a schema nor a shape. -/
def strayError (key : String) (stray : Term) : BuildError :=
  .invalidArgument args.builder position ("a schema for field `" ++ key ++ "`, found a " ++ stray.kindName)

/-- What is neither a schema nor a shape is no field. -/
theorem fieldSchema_stray (key : String) {stray : Term} (notSchema : ∀ s, stray ≠ .schema s)
    (notShape : ∀ nested, stray ≠ .shape nested) :
    args.fieldSchema position key stray = .error (args.strayError position key stray) := by
  rw [fieldSchema]
  · rfl
  · exact notSchema
  · exact notShape

/-- The schemas of fields, and the schema of a field, are those that they describe. -/
theorem fieldSchemas_and_fieldSchema_eq_ok_iff :
    (∀ fields schemas, args.fieldSchemas position fields = .ok schemas ↔ FieldsDescribe fields schemas) ∧
      ∀ key term s, args.fieldSchema position key term = .ok s ↔ term.Describes s := by
  refine fieldSchemas.mutual_induct _ _ ?schema ?shape ?stray ?noFields ?field
  case schema =>
    intro key s s'
    rw [fieldSchema, Except.ok.injEq]
    constructor
    · rintro rfl
      exact .schema s
    · intro h
      cases h
      rfl
  case shape =>
    intro key nested ih s
    rw [fieldSchema, bind_eq_ok_iff]
    constructor
    · rintro ⟨schemas, h, hs⟩
      cases hs
      exact .shape ((ih schemas).mp h)
    · intro h
      cases h with
      | shape h => exact ⟨_, (ih _).mpr h, rfl⟩
  case stray =>
    intro key other hs hn s
    rw [args.fieldSchema_stray position key hs hn]
    constructor
    · intro h
      cases h
    · intro h
      cases h with
      | schema s => exact (hs s rfl).elim
      | shape _ => exact (hn _ rfl).elim
  case noFields =>
    intro schemas
    rw [fieldSchemas, Except.ok.injEq]
    constructor
    · rintro rfl
      exact .nil
    · intro h
      cases h
      rfl
  case field =>
    intro key term rest ihTerm ihRest schemas
    rw [fieldSchemas, bind_eq_ok_iff]
    constructor
    · rintro ⟨s, hs, h⟩
      obtain ⟨more, hmore, h⟩ := bind_eq_ok_iff.mp h
      cases h
      exact .cons ((ihTerm s).mp hs) ((ihRest more).mp hmore)
    · intro h
      cases h with
      | cons head tail => exact ⟨_, (ihTerm _).mpr head, bind_eq_ok_iff.mpr ⟨_, (ihRest _).mpr tail, rfl⟩⟩

/-- The schemas of the fields of a shape are those that the fields describe. -/
theorem fieldSchemas_eq_ok_iff (fields : List (String × Term)) (schemas : List (String × Schema)) :
    args.fieldSchemas position fields = .ok schemas ↔ FieldsDescribe fields schemas :=
  (args.fieldSchemas_and_fieldSchema_eq_ok_iff position).1 fields schemas

/-- Fields have schemas if none of them is neither a schema nor a shape; else the first that is neither is reported. -/
theorem fieldSchemas_and_fieldSchema_eq_strayError :
    (∀ fields, (strayFields fields = [] ∧ ∃ schemas, args.fieldSchemas position fields = .ok schemas) ∨
      ∃ key stray rest, strayFields fields = (key, stray) :: rest ∧
        args.fieldSchemas position fields = .error (args.strayError position key stray)) ∧
      ∀ name term, (strayField name term = [] ∧ ∃ s, args.fieldSchema position name term = .ok s) ∨
        ∃ key stray rest, strayField name term = (key, stray) :: rest ∧
          args.fieldSchema position name term = .error (args.strayError position key stray) := by
  refine fieldSchemas.mutual_induct _ _ ?schema ?shape ?stray ?noFields ?field
  case schema =>
    intro key s
    exact Or.inl ⟨rfl, s, rfl⟩
  case shape =>
    intro key nested ih
    rw [strayField, fieldSchema]
    rcases ih with ⟨hn, schemas, h⟩ | ⟨k, stray, rest, hn, h⟩
    · exact Or.inl ⟨hn, _, by rw [h]; rfl⟩
    · exact Or.inr ⟨k, stray, rest, hn, by rw [h]; rfl⟩
  case stray =>
    intro key other hs hn
    refine Or.inr ⟨key, other, [], ?_, args.fieldSchema_stray position key hs hn⟩
    cases other with
    | schema s => exact (hs s rfl).elim
    | shape nested => exact (hn nested rfl).elim
    | _ => rfl
  case noFields => exact Or.inl ⟨rfl, [], rfl⟩
  case field =>
    intro name term rest ihTerm ihRest
    rw [strayFields, fieldSchemas]
    rcases ihTerm with ⟨hn, s, hs⟩ | ⟨key, stray, more, hn, hs⟩
    · rw [hn, hs, List.nil_append]
      rcases ihRest with ⟨hm, schemas, h⟩ | ⟨key, stray, more, hm, h⟩
      · exact Or.inl ⟨hm, _, by rw [h]; rfl⟩
      · exact Or.inr ⟨key, stray, more, hm, by rw [h]; rfl⟩
    · exact Or.inr ⟨key, stray, more ++ strayFields rest, by rw [hn]; rfl, by rw [hs]; rfl⟩

/-- The fields of a shape are refused with the first that is neither a schema nor a shape. -/
theorem fieldSchemas_eq_error_iff (fields : List (String × Term)) (e : BuildError) :
    args.fieldSchemas position fields = .error e ↔
      ∃ key stray rest, strayFields fields = (key, stray) :: rest ∧ e = args.strayError position key stray := by
  rcases (args.fieldSchemas_and_fieldSchema_eq_strayError position).1 fields with ⟨hn, schemas, h⟩ | ⟨key, stray, rest, hn, h⟩
  · simp [hn, h]
  · simp [hn, h, eq_comm]

/-- An argument is a schema when it describes one. -/
theorem schema_eq_ok_iff (s : Schema) : args.schema position = .ok s ↔ ∃ t, args.get? position = some t ∧ t.Describes s := by
  unfold schema
  split
  · rename_i found hget
    constructor
    · intro h
      cases h
      exact ⟨_, hget, .schema s⟩
    · rintro ⟨t, ht, hd⟩
      cases hget.symm.trans ht
      cases hd
      rfl
  · rename_i fields hget
    rw [bind_eq_ok_iff]
    simp only [fieldSchemas_eq_ok_iff]
    constructor
    · rintro ⟨schemas, h, hs⟩
      cases hs
      exact ⟨_, hget, .shape h⟩
    · rintro ⟨t, ht, hd⟩
      cases hget.symm.trans ht
      cases hd with
      | shape h => exact ⟨_, h, rfl⟩
  · rename_i hschema hshape
    constructor
    · intro h
      cases h
    · rintro ⟨t, ht, hd⟩
      cases hd with
      | schema s => exact (hschema s ht).elim
      | shape h => exact (hshape _ ht).elim

/-- An argument is a shape when it is one whose fields describe schemas. -/
theorem shape_eq_ok_iff (position : Nat) (schemas : List (String × Schema)) :
    args.shape position = .ok schemas ↔ ∃ fields, args.get? position = some (.shape fields) ∧ FieldsDescribe fields schemas := by
  unfold shape
  split
  · rename_i fields hget
    rw [hget]
    simp [fieldSchemas_eq_ok_iff]
  · rename_i hshape
    constructor
    · intro h
      cases h
    · rintro ⟨fields, hget, -⟩
      exact (hshape fields hget).elim

end Arguments

end Schemata
