import Schemata.Proofs.Compiler.Locality
import Schemata.Proofs.Compiler.Termination

/-!
# Data without marks

A description whose texts have no marker in them calls nothing, whatever its keys are and whatever names are registered: its sequences
are lists, its mappings are shapes, and it compiles to its mirror image (`Compiler.compile_unmarked`).
-/

namespace Schemata

namespace Node

/-! ## Mirror images -/

mutual

/-- The term that has the form of a description: a list for a sequence, a shape for a mapping, a literal for a scalar. -/
def mirror (n : Node) : Term :=
  match n with
  | .null => .literal .null
  | .bool b => .literal (.bool b)
  | .num x => .literal (.num x)
  | .str s => .literal (.str s)
  | .pattern p => .pattern p
  | .seq items => .list (mirrorItems items)
  | .map fields => .shape (mirrorFields fields)
termination_by structural n

/-- The mirror images of items, in order. -/
def mirrorItems (items : List Node) : List Term :=
  match items with
  | [] => []
  | n :: rest => mirror n :: mirrorItems rest
termination_by structural items

/-- The mirror images of fields, under the same keys. -/
def mirrorFields (fields : List (String × Node)) : List (String × Term) :=
  match fields with
  | [] => []
  | (key, n) :: rest => (key, mirror n) :: mirrorFields rest
termination_by structural fields

end

/-! ## Texts without the marker -/

/-- No text has the marker in it. -/
def Unmarked (marker : String) (texts : List String) : Prop :=
  ∀ s ∈ texts, ¬∃ before after, s = before ++ marker ++ after

variable {marker : String}

theorem unmarked_append {texts more : List String} :
    Unmarked marker (texts ++ more) ↔ Unmarked marker texts ∧ Unmarked marker more :=
  List.forall_mem_append

/-- The texts of an item are among those of the items. -/
theorem Unmarked.item {items : List Node} (h : Unmarked marker (itemTexts items)) {n : Node} (hn : n ∈ items) :
    Unmarked marker n.texts := by
  induction items with
  | nil => cases hn
  | cons first rest ih =>
    obtain ⟨hfirst, hrest⟩ := unmarked_append.mp h
    rcases List.mem_cons.mp hn with rfl | hn
    · exact hfirst
    · exact ih hrest hn

/-- The texts of a field are among those of the fields. -/
theorem Unmarked.field {fields : List (String × Node)} (h : Unmarked marker (fieldTexts fields)) {field : String × Node}
    (hf : field ∈ fields) : Unmarked marker field.2.texts := by
  induction fields with
  | nil => cases hf
  | cons first rest ih =>
    obtain ⟨hfirst, hrest⟩ := unmarked_append.mp h
    rcases List.mem_cons.mp hf with rfl | hf
    · exact hfirst
    · exact ih hrest hf

mutual

/-- What has no marked text heads no invocation. -/
theorem headsInvocation_of_unmarked (n : Node) (h : Unmarked marker n.texts) : headsInvocation marker n = false := by
  match n with
  | .str s =>
    have hs : ¬Text.occursIn marker s = true := fun hmark => h s List.mem_cons_self ((Text.occursIn_iff marker s).mp hmark)
    exact Bool.eq_false_iff.mpr hs
  | .seq items => exact isInvocation_of_unmarked items h
  | .null | .bool _ | .num _ | .pattern _ | .map _ => rfl
termination_by structural n

/-- Items without a marked text are no invocation. -/
theorem isInvocation_of_unmarked (items : List Node) (h : Unmarked marker (itemTexts items)) :
    isInvocation marker items = false := by
  match items with
  | [] => rfl
  | n :: rest => exact headsInvocation_of_unmarked n (unmarked_append.mp h).1
termination_by structural items

end

end Node

namespace Compiler

open Node (Unmarked)

variable {c : Compiler}

/-! ## Calls for data -/

/-- A call for data without marks: for a node, for the fields of a shape or for the items of a list. -/
def ForData (c : Compiler) : Task → Prop
  | .node n => Unmarked c.marker n.texts
  | .shape fields => Unmarked c.marker (Node.fieldTexts fields)
  | .sequence items => Unmarked c.marker (Node.itemTexts items)
  | _ => False

/-- Calls for data lead to calls for data only, never to a chain or an invocation. -/
theorem ForData.calls {t t' : Task} (h : c.ForData t) (hcalls : c.Calls t t') : c.ForData t' := by
  cases requested_of_asks hcalls with
  | sequence items => exact h
  | shape fields => exact h
  | field hf => exact Unmarked.field h hf
  | chain hinv =>
    rw [Node.isInvocation_of_unmarked _ h] at hinv
    cases hinv
  | item hn => exact Unmarked.item h hn
  | _ => exact h.elim

/-- A call for data calls no builder. -/
theorem ForData.not_asks_builder {t : Task} (h : c.ForData t) (b : Binding) (args : List Term) :
    ¬(c.work t).Asks (.builder b args) := by
  intro hasks
  cases requested_of_asks hasks with
  | _ => exact h.elim

/-- The answers that give mirror images to calls for data. -/
def mirrored (c : Compiler) : (t : Task) → Traced t.Answer
  | .node n => pure n.mirror
  | .shape fields => pure (.shape (Node.mirrorFields fields))
  | .sequence items => pure (.list (Node.mirrorItems items))
  | t => c.outcome t

theorem answered_mirrorItems (items : List Node) :
    (items.mapM fun n => Work.call (.node n)).answered c.mirrored = pure (Node.mirrorItems items) := by
  induction items with
  | nil => rfl
  | cons n rest ih =>
    rw [List.mapM_cons, Work.answered_bind, Work.answered_call]
    simp only [Work.answered_bind, ih]
    rfl

theorem answered_mirrorFields (fields : List (String × Node)) :
    (fields.mapM fun (key, n) => (key, ·) <$> Work.call (.node n) : Work (List (String × Term))).answered c.mirrored =
      pure (Node.mirrorFields fields) := by
  induction fields with
  | nil => rfl
  | cons field rest ih =>
    rw [List.mapM_cons, Work.answered_bind, Work.answered_map, Work.answered_call]
    simp only [Work.answered_bind, ih]
    rfl

/-- The work of a call for data comes to the mirror image, if each call it makes does. -/
theorem answered_mirrored {t : Task} (h : c.ForData t) : (c.work t).answered c.mirrored = c.mirrored t := by
  cases t with
  | node n =>
    cases n with
    | seq items => exact Work.answered_call _ _
    | map fields => exact Work.answered_call _ _
    | _ => rfl
  | shape fields =>
    rw [work, Work.answered_map, answered_mirrorFields]
    rfl
  | sequence items =>
    rw [work, if_neg (by simp [Node.isInvocation_of_unmarked items h]), Work.answered_map, answered_mirrorItems]
    rfl
  | _ => exact h.elim

/-- Data passes through. A description none of whose texts has the marker in it compiles to its mirror image, without a single event:
sequences become lists of the mirror images of their items in order, mappings become shapes with the same keys, patterns stay patterns
and other scalars become literals. No call that this leads to calls a builder, of the user's own or of the library, also where a text
is the name of one. -/
theorem compile_unmarked (c : Compiler) {n : Node} (h : ∀ s ∈ n.texts, ¬∃ before after, s = before ++ c.marker ++ after) :
    c.compile n = pure n.mirror ∧
      ∀ t, Relation.ReflTransGen c.Calls (.node n) t → ∀ b args, ¬(c.work t).Asks (.builder b args) := by
  have hdata : c.ForData (.node n) := h
  constructor
  · exact (eq_outcome (fun _ _ hdata hcalls => hdata.calls hcalls) (fun _ => answered_mirrored) (.node n) hdata).symm
  · intro t hreach
    have ht : c.ForData t := by
      induction hreach with
      | refl => exact hdata
      | tail _ hcalls ih => exact ih.calls hcalls
    exact ht.not_asks_builder

namespace UnmarkedWitness

open Compiler.LocalityWitness (compiler word)

/-- Data whose key is a call of the builder of the user's own, and whose texts are the names of builders. -/
def data : Node :=
  .map [("do.word", .seq [.str "word", .seq [.str "string", .null], .map [("do.string", .bool true)]])]

theorem compile_data :
    (∀ s ∈ data.texts, ¬∃ before after, s = before ++ compiler.marker ++ after) ∧
      compiler.registry.get? "word" = some word ∧
      compiler.compile data = pure (.shape [("do.word", .list [.literal (.str "word"),
        .list [.literal (.str "string"), .literal .null], .shape [("do.string", .literal (.bool true))]])]) ∧
      ¬(compiler.work (.shape [("do.word", .seq [.str "word", .seq [.str "string", .null],
        .map [("do.string", .bool true)]])])).Asks (.builder (.custom "word" word) []) := by
  have htexts : ∀ s ∈ data.texts, ¬∃ before after, s = before ++ compiler.marker ++ after := by
    have hwritten : ∀ s ∈ data.texts, ¬Text.occursIn compiler.marker s = true := by decide
    exact fun s hs hmark => hwritten s hs ((Text.occursIn_iff _ _).mpr hmark)
  obtain ⟨hmirror, hbuilders⟩ := compiler.compile_unmarked htexts
  exact ⟨htexts, rfl, hmirror, hbuilders _ (.single .call) _ _⟩

end UnmarkedWitness

end Compiler

end Schemata
