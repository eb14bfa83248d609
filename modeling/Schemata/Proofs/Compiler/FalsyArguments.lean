import Schemata.Proofs.Compiler.BareMapping
import Schemata.Proofs.Compiler.Continuation
import Schemata.Proofs.Library.Falsy

/-!
# Calls with arguments that count as nothing

Arguments that all count as nothing are not passed, and so a call with such arguments gives what the member gives without arguments
(`Compiler.result_invoke_falsy`). That is what the member gives for the arguments themselves, where it accepts them, exactly if it
heeds none of them. No root builder accepts such arguments.
-/

namespace Schemata

open Member (literals)

/-! ## Root builders -/

/-- No root builder accepts literals that count as nothing, one at least. -/
theorem Root.build_falsy_ne_ok (root : Root) (name : String) {vs : List Json} (nonempty : vs ≠ []) (falsy : ∀ v ∈ vs, v.IsFalsy)
    (t : Term) : root.build (literals name vs) ≠ .ok t := by
  obtain ⟨v, more, rfl⟩ := List.exists_cons_of_ne_nil nonempty
  have plain : ∀ tag : Tag, Root.plain tag (literals name (v :: more)) ≠ .ok t := nofun
  intro h
  cases root with
  | mixed | string | number | boolean => exact plain _ h
  | object | array =>
    obtain ⟨-, -, h⟩ := bind_eq_ok_iff.mp h
    obtain ⟨part, hpart, -⟩ := bind_eq_ok_iff.mp h
    cases hpart
  | ref =>
    obtain ⟨-, -, h⟩ := bind_eq_ok_iff.mp h
    obtain ⟨path, hpath, h⟩ := bind_eq_ok_iff.mp h
    cases falsy v List.mem_cons_self with
    | empty =>
      cases hpath
      cases h
    | _ => cases hpath

namespace Compiler

variable (c : Compiler)

/-! ## Members -/

/-- What counts as nothing is a scalar. -/
theorem isScalar_of_falsy {a : Node} (h : a.toJson.IsFalsy) : a.IsScalar := by
  cases a with
  | null | bool | num | str => trivial
  | _ => cases h

/-- No text that counts as nothing has the marker in it. -/
theorem not_markLeads_of_falsy {args : List Node} (falsy : ∀ a ∈ args, a.toJson.IsFalsy) : ¬c.MarkLeads args := by
  rintro ⟨text, more, rfl, hmark⟩
  have hfalsy : (Json.str text).IsFalsy := falsy _ List.mem_cons_self
  cases hfalsy
  obtain ⟨before, after, hcut⟩ := (Text.occursIn_iff c.marker "").mp hmark
  have hempty := congrArg String.toList hcut
  simp only [String.toList_append] at hempty
  obtain ⟨hleft, -⟩ := List.append_eq_nil_iff.mp hempty.symm
  exact c.marker_ne (String.toList_injective (List.append_eq_nil_iff.mp hleft).2)

/-- Scalars that all count as nothing are not passed. -/
theorem argumentsOf_falsy {binding : Binding} (noPattern : binding.takesPattern = false) {args : List Node}
    (falsy : ∀ a ∈ args, a.toJson.IsFalsy) : c.argumentsOf binding args = .ok [] := by
  have scalar : ∀ a ∈ args, a.IsScalar := fun a ha => isScalar_of_falsy (falsy a ha)
  have plain : Node.isInvocation c.marker args = false := by
    rw [← Bool.not_eq_true, c.isInvocation_scalars_iff scalar]
    exact c.not_markLeads_of_falsy falsy
  have hall : ((args.map fun a => Term.literal a.toJson).all Term.isFalsy) = true := by
    rw [List.all_eq_true]
    intro t ht
    obtain ⟨a, ha, rfl⟩ := List.mem_map.mp ht
    exact (falsy a ha).isFalsy
  rw [c.argumentsOf_eq binding plain, c.calledArguments_of_not_takesPattern noPattern, c.mapM_compile_scalars scalar]
  exact congrArg Except.ok (if_pos hall)

/-- A number is passed, unless it is a zero. -/
theorem argumentsOf_num {binding : Binding} (noPattern : binding.takesPattern = false) (x : Number) :
    c.argumentsOf binding [.num x] = .ok (if x.toBinary64.same .zero = true then [] else [.literal (.num x)]) := by
  by_cases hzero : x.toBinary64.same .zero = true
  · have falsy : ∀ a ∈ [Node.num x], a.toJson.IsFalsy := by
      intro a ha
      rw [List.mem_singleton.mp ha]
      exact .zero hzero
    rw [c.argumentsOf_falsy noPattern falsy, if_pos hzero]
  · have scalar : ∀ a ∈ [Node.num x], a.IsScalar := by simp [Node.IsScalar]
    have something : ∃ a ∈ [Node.num x], (Term.literal a.toJson).isFalsy = false :=
      ⟨_, List.mem_cons_self, Bool.eq_false_iff.mpr hzero⟩
    have unmarked : ¬c.MarkLeads [.num x] := by
      rintro ⟨text, more, h, -⟩
      cases h
    rw [c.argumentsOf_scalars noPattern scalar something unmarked, if_neg hzero]
    rfl

/-- A call of a member with such arguments gives what the member gives without arguments. -/
theorem result_invoke_falsy {s : Schema} {name : String} {member : Member} (hm : Member.named? s.tag name = some member)
    (alone : c.LeavesAlone name) (noPattern : member ≠ .matching) {args : List Node} (falsy : ∀ a ∈ args, a.toJson.IsFalsy) :
    (c.invoke (.str (c.marker ++ name) :: args) (some (.schema s))).result =
      ((member.build s (literals name [])).map Term.schema).mapError .build := by
  have hresolve : c.resolve (.str (c.marker ++ name)) (some (.schema s)) = .ok (.member member s) := by
    rw [resolve_str, lookup?_eq_calledBuilder?, c.calledBuilder?_marked alone, memberOf?_eq_some_iff.mpr ⟨s, member, rfl, hm, rfl⟩]
    rfl
  have hpattern : (Binding.member member s).takesPattern = false := by
    cases member with
    | matching => exact (noPattern rfl).elim
    | _ => rfl
  have hname := (Member.exposedBy_of_named? hm).2
  rw [result_invoke_str, hresolve]
  show (c.argumentsOf (.member member s) args >>= _) = _
  rw [c.argumentsOf_falsy hpattern falsy]
  subst hname
  rfl

/-- No root builder accepts literals that all count as nothing, one at least. Where a member of a schema accepts them, the compiled
call with them gives what the member gives for no arguments: the schema that it gives for the literals exactly if it heeds none of
them. -/
theorem invoke_falsy_arguments {args : List Node} (nonempty : args ≠ [])
    (falsy : ∀ a ∈ args, (Term.literal a.toJson).isFalsy = true) :
    (∀ name t, Root.call? name (args.map fun a => .literal a.toJson) ≠ some (.ok t)) ∧
      ∀ (s : Schema) (name : String) (member : Member) (t : Term), c.LeavesAlone name → Member.named? s.tag name = some member →
        Member.call? s name (args.map fun a => .literal a.toJson) = some (.ok t) →
        some (c.invoke (.str (c.marker ++ name) :: args) (some (.schema s))).result =
            (Member.call? s name []).map (·.mapError CompileError.build) ∧
          ((c.invoke (.str (c.marker ++ name) :: args) (some (.schema s))).result = .ok t ↔
            ∀ a ∈ args, ¬member.Heeds s.tag a.toJson) := by
  have hfalsy : ∀ a ∈ args, a.toJson.IsFalsy := fun a ha => .of_literal (falsy a ha)
  have hliterals : (args.map fun a => Term.literal a.toJson) = (args.map Node.toJson).map Term.literal := by
    rw [List.map_map]
    rfl
  have hvs : args.map Node.toJson ≠ [] := by simpa using nonempty
  have hvsFalsy : ∀ v ∈ args.map Node.toJson, v.IsFalsy := by simpa using hfalsy
  rw [hliterals]
  refine ⟨fun name t h => ?_, fun s name member t alone hm h => ?_⟩
  · obtain ⟨root, -, h⟩ := Option.map_eq_some_iff.mp h
    exact root.build_falsy_ne_ok name hvs hvsFalsy t h
  · have hcall : ∀ items, Member.call? s name items = some ((member.build s ⟨name, items⟩).map .schema) := by
      intro items
      rw [Member.call?, hm]
      rfl
    rw [hcall] at h ⊢
    obtain ⟨r, hr, rfl⟩ := Member.refinement_of_build (Option.some.inj h)
    have hne := Member.ne_of_refinement_literals hr
    have exposed := (Member.exposedBy_of_named? hm).1
    have unheeded : (∀ a ∈ args, ¬member.Heeds s.tag a.toJson) ↔ ∀ v ∈ args.map Node.toJson, ¬member.Heeds s.tag v := by simp
    have hinvoke := c.result_invoke_falsy hm alone hne.1 hfalsy
    refine ⟨congrArg some hinvoke, ?_⟩
    rw [hinvoke, mapError_eq_ok_iff, Member.build_eq_refined_iff hr hne.2.1, unheeded]
    exact Member.refinement_of_falsy exposed hvs hvsFalsy hr

namespace FalsyArgumentsWitness

open SmallCase (compiler)

/-- The schema of texts. -/
def text : Schema := .ofTag .string

theorem invoke_label_and_nullable :
    (compiler.LeavesAlone "label" ∧ Member.call? text "label" [.literal (.str "")] = some (.ok (.schema (text.label ""))) ∧
      (compiler.invoke [.str "do.label", .str ""] (some (.schema text))).result = .ok (.schema (text.label ""))) ∧
    (compiler.LeavesAlone "nullable" ∧
      Member.call? text "nullable" [.literal (.bool false)] = some (.ok (.schema (text.nullable false))) ∧
      (compiler.invoke [.str "do.nullable", .bool false] (some (.schema text))).result ≠ .ok (.schema (text.nullable false))) := by
  have aloneLabel : compiler.LeavesAlone "label" := ⟨rfl, rfl⟩
  have aloneNullable : compiler.LeavesAlone "nullable" := ⟨rfl, rfl⟩
  have nonempty : ∀ a : Node, [a] ≠ [] := by simp
  have hlabel := (compiler.invoke_falsy_arguments (nonempty (.str "")) (by decide)).2 text "label" .label
    (.schema (text.label "")) aloneLabel rfl rfl
  have hnullable := (compiler.invoke_falsy_arguments (nonempty (.bool false)) (by decide)).2 text "nullable" .nullable
    (.schema (text.nullable false)) aloneNullable rfl rfl
  refine ⟨⟨aloneLabel, rfl, hlabel.2.mpr ?_⟩, aloneNullable, rfl, fun h => ?_⟩
  · simp [Node.toJson, Member.Heeds]
  · exact hnullable.2.mp h _ List.mem_cons_self (Or.inr rfl)

/-- False, an empty entry and an empty message, which the members heed and the compiled calls do not. -/
theorem falsy_literals_lost :
    (Member.call? text "nullable" [.literal (.bool false)] = some (.ok (.schema (text.nullable false))) ∧
      (compiler.compile (.seq [.seq [.str "do.string"], .seq [.str "do.nullable", .bool false]])).result =
        .ok (.schema (text.nullable true)) ∧
      (compiler.compile (.seq [.seq [.str "do.string"], .seq [.str "do.nullable", .bool false]])).result ≠
        .ok (.schema (text.nullable false))) ∧
    (Member.call? text "oneOf" [.literal (.str "")] = some (.ok (.schema (text.oneOf [.value (.str "")] none))) ∧
      (compiler.compile (.seq [.seq [.str "do.string"], .seq [.str "do.oneOf", .str ""]])).result =
        .error (.build (.invalidArgument "oneOf" 0 "a list of values"))) ∧
    (Member.call? text "required" [.literal (.str "")] = some (.ok (.schema (text.required (some "")))) ∧
      (compiler.compile (.seq [.seq [.str "do.string"], .seq [.str "do.required", .str ""]])).result =
        .ok (.schema (text.required none))) := by
  have hnullable : (compiler.compile (.seq [.seq [.str "do.string"], .seq [.str "do.nullable", .bool false]])).result =
      .ok (.schema (text.nullable true)) := rfl
  refine ⟨⟨rfl, hnullable, ?_⟩, ⟨rfl, rfl⟩, rfl, rfl⟩
  rw [hnullable]
  simp [Schema.nullable]

end FalsyArgumentsWitness

end Compiler

end Schemata
