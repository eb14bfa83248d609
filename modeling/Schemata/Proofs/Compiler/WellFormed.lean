import Schemata.Proofs.Compiler.Calls
import Schemata.Proofs.Compiler.Reports
import Schemata.Proofs.Library.WellFormed

/-!
# Compiling gives well-formed terms

Without custom builders, whatever compiles is well-formed at every depth (`compile_and_transform_wellFormed`): a name stands for a
root builder, or for a member that is exposed by the schema before it (`lookup?_wellFormed`), and both keep terms well-formed. So does
going on with a shape, and nothing else makes terms (`invariant_wellFormed`).
-/

namespace Schemata

/-! ## Names and calls -/

/-- A builder of the library, and if it is a member, one that its well-formed receiver exposes. -/
def Binding.WellFormed : Binding → Prop
  | .custom _ _ => False
  | .member m receiver => m.exposedBy receiver.tag = true ∧ receiver.WellFormed
  | .root _ => True

/-- Such a builder gives a well-formed term for well-formed arguments. -/
theorem Binding.WellFormed.call {binding : Binding} (hb : binding.WellFormed) {args : List Term}
    (hargs : ∀ t ∈ args, t.WellFormed) {t : Term} (h : binding.call args = .ok t) : t.WellFormed := by
  cases binding with
  | custom name builder => exact hb.elim
  | member m receiver =>
    have hwritten : Arguments.WellFormed ⟨m.name, args⟩ := hargs
    obtain ⟨s, hs, rfl⟩ := map_eq_ok_iff.mp h
    exact .schema (m.build_wellFormed hb.1 hb.2 hwritten hs)
  | root r =>
    have hwritten : Arguments.WellFormed ⟨r.name, args⟩ := hargs
    exact r.build_wellFormed hwritten h

namespace Compiler

variable {c : Compiler}

/-- Without custom builders, a name after a well-formed term stands for such a builder, if for any. -/
theorem lookup?_wellFormed (empty : c.registry = Registry.empty) {receiver : Option Term}
    (hr : ∀ t ∈ receiver, t.WellFormed) {name : String} {binding : Binding} (h : c.lookup? name receiver = some binding) :
    binding.WellFormed := by
  rcases c.member_or_root_of_lookup? empty h with ⟨s, m, bare, rfl, hm, rfl⟩ | ⟨r, rfl⟩
  · cases hr _ rfl with
    | schema hs => exact ⟨(Member.exposedBy_of_named? hm).1, hs⟩
  · trivial

/-- A chain goes on with a shape of well-formed terms as a well-formed schema. -/
theorem continueWithShape_wellFormed {acc : Term} (h : acc.WellFormed) {t : Term}
    (ht : (c.continueWithShape acc).result = .ok t) : t.WellFormed := by
  unfold continueWithShape at ht
  split at ht
  · rename_i fields
    have hargs : Arguments.WellFormed ⟨Root.object.name, [.shape fields]⟩ := by
      intro arg harg
      rw [List.mem_singleton.mp harg]
      exact h
    exact Root.object.build_wellFormed hargs (mapError_eq_ok_iff.mp ht)
  · rename_i s fields
    cases h with
    | list hitems =>
      have hs : s.WellFormed := by
        cases hitems _ List.mem_cons_self with
        | schema hs => exact hs
      have hargs : Arguments.WellFormed ⟨Member.shape.name, [.shape fields]⟩ := by
        intro arg harg
        rw [List.mem_singleton.mp harg]
        exact hitems _ (List.mem_cons_of_mem _ List.mem_cons_self)
      split at ht
      · cases ht
      · rename_i member hm
        obtain ⟨s', hs', rfl⟩ := map_eq_ok_iff.mp ht
        exact .schema (member.build_wellFormed (Member.exposedBy_of_named? hm).1 hs hargs (mapError_eq_ok_iff.mp hs'))
  · cases ht
  · cases ht

/-! ## Every part of a description -/

/-- Without custom builders, every step makes well-formed terms of well-formed terms. -/
theorem invariant_wellFormed (empty : c.registry = Registry.empty) : c.Invariant Term.WellFormed (fun _ => True) where
  literal n h := by
    cases n with
    | null | bool | num | str => exact .literal trivial
    | _ => exact h.elim
  pattern p := .pattern p
  list items := by
    refine ⟨fun h => ?_, .list⟩
    cases h with
    | list hitems => exact hitems
  shape _ h := .shape h
  nothing := trivial
  lead _ _ _ := ⟨fun _ _ => trivial, fun _ _ => trivial⟩
  resolve name receiver hr := by
    refine ⟨fun binding hb args hargs => ⟨fun t ht => ?_, fun _ _ => trivial⟩, fun _ _ => trivial⟩
    obtain ⟨s, -, hl⟩ := c.lookup?_of_resolve hb
    exact (lookup?_wellFormed empty hr hl).call hargs (mapError_eq_ok_iff.mp ht)
  continueWithShape acc h := ⟨fun t ht => continueWithShape_wellFormed h ht, fun _ _ => trivial⟩

/-- Without custom builders, a description that compiles, as a part or as a whole, gives a term that is well-formed at every depth:
its literals are scalars, its references have paths, the entries of its sets are such scalars and references, and each of its schemas
has only rules that constrain values of its own kind. -/
theorem compile_and_transform_wellFormed (empty : c.registry = Registry.empty) (n : Node) :
    (∀ t, (c.compile n).result = .ok t → t.WellFormed) ∧ ∀ t, (c.transform n).result = .ok t → t.WellFormed :=
  have hcompile : ∀ n t, (c.compile n).result = .ok t → t.WellFormed := fun n => ((invariant_wellFormed empty).all_meet.1 n).1
  ⟨hcompile n, fun t h => hcompile _ t ((c.transform_eq_ok_iff n t).mp h)⟩

namespace WellFormedWitness

open SmallCase (compiler)

/-- Arrays of addresses, each of which is null or what a field next to the array has. -/
def addresses : Node :=
  .seq [.seq [.str "do.array", .seq [.seq [.str "do.string"], .seq [.str "do.email", .str "No address"],
    .seq [.str "do.oneOf", .seq [.null, .seq [.str "do.ref", .str "other"]]]]]]

/-- The schema of the items. -/
def address : Schema :=
  ((Schema.ofTag .string).ruleWithMessage .email (some "No address")).oneOf [.value .null, .reference ⟨"other"⟩] none

theorem wellFormed_addresses :
    compiler.registry = Registry.empty ∧
      (compiler.compile addresses).result = .ok (.schema ((Schema.ofTag .array).of address)) ∧
      (Term.schema ((Schema.ofTag .array).of address)).WellFormed := by
  have hcompile : (compiler.compile addresses).result = .ok (.schema ((Schema.ofTag .array).of address)) := rfl
  exact ⟨rfl, hcompile, (compile_and_transform_wellFormed rfl addresses).1 _ hcompile⟩

end WellFormedWitness

end Compiler

end Schemata
