import Schemata.Proofs.Violation.Parameters

/-!
# Violations under keys

Moving a tree of violations under a key moves each violation in it, once (`flatten_under`), and changes nothing of it but its path
(`movedUnder`). Moving it under one key and then under another is moving it under the two with a point between them (`under_under`),
unless the first is empty.
-/

namespace Schemata.Violation

/-- A violation is another one moved under a key: of each violation in the tree only the path is changed, which begins with the key. -/
structure MovedUnder (key : String) (moved e : Violation) : Prop where
  code_eq : moved.code = e.code
  message_eq : moved.message = e.message
  params_eq : moved.params = e.params
  nested_eq : moved.nested = e.nested.map (·.under key)
  field_of_absent : e.field = none ∨ e.field = some "" → moved.field = some key
  field_of_present : ∀ path, e.field = some path → path ≠ "" → moved.field = some (key ++ "." ++ path)

/-- A violation that is moved under a key is so. -/
theorem movedUnder (e : Violation) (key : String) : MovedUnder key (e.under key) e where
  code_eq := e.code_under key
  message_eq := e.message_under key
  params_eq := e.params_under key
  nested_eq := e.nested_under key
  field_of_absent h := by
    rw [field_under]
    rcases h with h | h <;> simp [pathUnder, h]
  field_of_present path h hne := by
    rw [field_under, h]
    simp [pathUnder, hne]

/-- A path under one key, which is not empty, and then under another, is under both with a point between them. -/
theorem pathUnder_pathUnder (p : String) {q : String} (hq : q ≠ "") (field : Option String) :
    pathUnder p (some (pathUnder q field)) = pathUnder (p ++ "." ++ q) field := by
  cases field with
  | none => simp [pathUnder, hq]
  | some path =>
    by_cases hpath : path = ""
    · simp [pathUnder, hpath, hq]
    · simp [pathUnder, hpath, hq, String.append_assoc]

/-- So is a tree. -/
theorem under_under (e : Violation) (p : String) {q : String} (hq : q ≠ "") :
    (e.under q).under p = e.under (p ++ "." ++ q) := by
  induction e using induct with
  | step e ih =>
    obtain ⟨code, message, field, params, nested⟩ := e
    simp only [under, allUnder_eq_map, List.map_map, pathUnder_pathUnder p hq, mk.injEq, true_and]
    exact List.map_congr_left ih

/-- A tree moved under a key has the violations of the tree in their order, each moved under the key and else as it was; and moving it
under a key that is not empty and then under another is moving it under both with a point between them. -/
theorem under_tree (e : Violation) (p : String) :
    List.Forall₂ (MovedUnder p) (e.under p).flatten e.flatten ∧
      ∀ q, q ≠ "" → (e.under q).under p = e.under (p ++ "." ++ q) := by
  refine ⟨?_, fun q hq => e.under_under p hq⟩
  rw [flatten_under, List.forall₂_map_left_iff, List.forall₂_same]
  exact fun inner _ => inner.movedUnder p

namespace PathsWitness

/-- An address without a city, whose number is too small in words of its own. -/
def address : Violation :=
  ⟨"object", "Object validation failed", none, [("count", "2")],
    [⟨"required", "This field is required", some "city", [], []⟩,
      ⟨"min", "too small", some "street.number", [("min", "1")],
        [⟨"min", "Value must be at least 1", some "", [("min", "1"), ("actual", "0")], []⟩]⟩]⟩

/-- The address in an order, and the order in a list of them. -/
theorem address_under :
    "order" ≠ "" ∧ List.Forall₂ (MovedUnder "0") (address.under "0").flatten address.flatten ∧
      (address.under "order").under "0" = address.under "0.order" ∧
      (address.under "0.order").flatten.map field =
        [some "0.order", some "0.order.city", some "0.order.street.number", some "0.order"] := by
  have hne : "order" ≠ "" := by decide
  obtain ⟨hmoved, hcomposed⟩ := under_tree address "0"
  exact ⟨hne, hmoved, hcomposed "order" hne, rfl⟩

end PathsWitness

end Schemata.Violation
