import Schemata.Proofs.Compiler.BareMapping
import Schemata.Proofs.Rounding
import Schemata.Proofs.Schema.Acceptance

/-!
# Comparisons of numbers

A schema of numbers compares them with a bound, or with the entries of a set. Both sides are taken for binary64 numbers first, so
whole numbers are compared as they are rounded (`Compiler.compile_comparison`). That is the comparison of the numbers themselves unless
two different numbers are rounded alike, which takes two of 2^53 at least in magnitude.
-/

namespace Schemata

/-- A comparison with a number that a member asks of numbers. -/
inductive Comparison where
  | min
  | max
  | moreThan
  | lessThan
  | oneOf
  | notOneOf

namespace Comparison

/-- The member. -/
def member : Comparison → Member
  | .min => .min
  | .max => .max
  | .moreThan => .moreThan
  | .lessThan => .lessThan
  | .oneOf => .oneOf
  | .notOneOf => .notOneOf

/-- The argument of the member: the entries of a set are a list. -/
def argument (y : Number) : Comparison → Node
  | .oneOf | .notOneOf => .seq [.num y]
  | _ => .num y

/-- What the argument compiles to. -/
def term (y : Number) : Comparison → Term
  | .oneOf | .notOneOf => .list [.literal (.num y)]
  | _ => .literal (.num y)

/-- The schema of the numbers that compare so with a number. -/
def schema (y : Number) : Comparison → Schema
  | .min => (Schema.ofTag .number).rule (.min y.toBinary64)
  | .max => (Schema.ofTag .number).rule (.max y.toBinary64)
  | .moreThan => (Schema.ofTag .number).rule (.moreThan y.toBinary64)
  | .lessThan => (Schema.ofTag .number).rule (.lessThan y.toBinary64)
  | .oneOf => (Schema.ofTag .number).oneOf [.value (.num y)] none
  | .notOneOf => (Schema.ofTag .number).notOneOf [.value (.num y)] none

/-- The comparison of whole numbers. -/
def Holds : Comparison → Int → Int → Prop
  | .min, a, b => a ≥ b
  | .max, a, b => a ≤ b
  | .moreThan, a, b => a > b
  | .lessThan, a, b => a < b
  | .oneOf, a, b => a = b
  | .notOneOf, a, b => a ≠ b

variable (cmp : Comparison)

/-! ## Comparisons of whole numbers -/

/-- A comparison is one of orders. -/
theorem holds_iff_of_lt_iff {a b a' b' : Int} (hless : a < b ↔ a' < b') (hmore : b < a ↔ b' < a') :
    cmp.Holds a b ↔ cmp.Holds a' b' := by
  cases cmp <;> unfold Holds <;> omega

/-- Numbers compare as their multiples do. -/
theorem holds_mul_iff {a b k : Int} (hk : 0 < k) : cmp.Holds (a * k) (b * k) ↔ cmp.Holds a b :=
  cmp.holds_iff_of_lt_iff (Int.mul_lt_mul_right hk) (Int.mul_lt_mul_right hk)

/-- Numbers compare as they are rounded, unless two that differ are rounded alike. -/
theorem holds_rounded_iff {a b : Int} (apart : a ≠ b → Binary64.rounded a ≠ Binary64.rounded b) :
    cmp.Holds (Binary64.rounded a) (Binary64.rounded b) ↔ cmp.Holds a b :=
  cmp.holds_iff_of_lt_iff (Binary64.rounded_lt_iff apart) (Binary64.rounded_lt_iff fun h => (apart h.symm).symm)

/-! ## What the schema accepts -/

/-- A schema accepts a number when nothing is wrong with it alone: it has no parts. -/
theorem isValid_num_iff (s : Schema) (x : Number) :
    s.isValid (some (.num x)) = true ↔ s.bodyViolation? (.num x) none = none := by
  rw [Schema.isValid, Option.isNone_iff_eq_none]
  refine (Place.violation?_eq_none_iff_accepts ⟨s, some (.num x), none⟩).trans ?_
  have hnull : Json.num x ≠ .null := by simp
  rw [Schema.accepts_some_iff s none hnull, Schema.fits_iff, Schema.forall_parts_iff s (.num x) none Schema.Accepts]
  simp

/-- A number is accepted when it compares so with the other, both as binary64 numbers. -/
theorem isValid_schema_iff (x y : Number) :
    (cmp.schema y).isValid (some (.num x)) = true ↔ cmp.Holds x.toBinary64.units y.toBinary64.units := by
  have hadmits : (cmp.schema y).tag.admits (.num x) = true := by cases cmp <;> rfl
  rw [isValid_num_iff, Schema.bodyViolation?_eq_none_iff]
  simp only [hadmits]
  cases cmp with
  | oneOf =>
    have hsame : y.toBinary64.units = x.toBinary64.units ↔ x.toBinary64.units = y.toBinary64.units := eq_comm
    simpa [schema, Holds, Schema.oneOf, Schema.ofTag, Allowed.resolve, Membership.sameEntry, Binary64.same_iff] using hsame
  | notOneOf =>
    have hsame : y.toBinary64.units ≠ x.toBinary64.units ↔ x.toBinary64.units ≠ y.toBinary64.units := ne_comm
    simpa [schema, Holds, Schema.notOneOf, Schema.ofTag, Allowed.resolve, Membership.sameEntry, Binary64.same] using hsame
  | _ => simp [schema, Holds, Schema.rule, Schema.ofTag, Rule.accepts, Rule.onNumber, Binary64.le_iff, Binary64.lt_iff]

/-- Whole numbers compare as they are rounded. -/
theorem isValid_whole_iff {a b : Int} (ha : -2 ^ 63 ≤ a ∧ a < 2 ^ 64) (hb : -2 ^ 63 ≤ b ∧ b < 2 ^ 64) :
    (cmp.schema (.whole b hb)).isValid (some (.num (.whole a ha))) = true ↔
      cmp.Holds (Binary64.rounded a) (Binary64.rounded b) := by
  have hone : (0 : Int) < Binary64.one := Int.natCast_pos.mpr Binary64.one_pos
  rw [isValid_schema_iff, Number.toBinary64, Number.toBinary64, Binary64.units_ofInt, Binary64.units_ofInt, cmp.holds_mul_iff hone]

end Comparison

namespace Compiler

variable (c : Compiler)

/-! ## The chain -/

/-- A call of the member with a whole number makes the schema of the comparison. -/
theorem called_comparison (cmp : Comparison) (alone : c.LeavesAlone cmp.member.name) {b : Int} (hb : -2 ^ 63 ≤ b ∧ b < 2 ^ 64) :
    c.called (some (.schema (.ofTag .number))) ⟨c.marker ++ cmp.member.name, [cmp.argument (.whole b hb)]⟩ =
      .ok (.schema (cmp.schema (.whole b hb))) := by
  have hnamed : Member.named? .number cmp.member.name = some cmp.member := by cases cmp <;> rfl
  have hfound : c.calledBuilder? (some (.schema (.ofTag .number))) (c.marker ++ cmp.member.name) =
      some (.member cmp.member (.ofTag .number)) := by
    rw [calledBuilder?_marked c alone, memberOf?_eq_some_iff.mpr ⟨.ofTag .number, cmp.member, rfl, hnamed, rfl⟩]
    rfl
  have hargs : c.calledArguments (.member cmp.member (.ofTag .number)) [cmp.argument (.whole b hb)] =
      .ok [cmp.term (.whole b hb)] := by
    have hpattern : (Binding.member cmp.member (.ofTag .number)).takesPattern = false := by cases cmp <;> rfl
    rw [c.calledArguments_of_not_takesPattern hpattern]
    cases cmp <;> rfl
  rw [called, hfound]
  simp only [hargs]
  show (Binding.call (.member cmp.member (.ofTag .number)) (if [cmp.term (.whole b hb)].all Term.isFalsy then [] else _)).mapError _ = _
  by_cases hzero : (cmp.term (.whole b hb)).isFalsy = true
  · -- A zero is not passed, and without arguments the bound is zero.
    have hpassed : ([cmp.term (.whole b hb)].all Term.isFalsy) = true := by simp [hzero]
    rw [hpassed]
    cases cmp with
    | oneOf | notOneOf => cases hzero
    | _ =>
      have hb0 : b = 0 := Binary64.eq_zero_of_ofInt_same_zero (h := by omega) hzero
      subst hb0
      rw [Comparison.schema, Number.toBinary64, Binary64.ofInt_zero]
      rfl
  · have hpassed : ([cmp.term (.whole b hb)].all Term.isFalsy) = false := by simp [hzero]
    rw [hpassed]
    cases cmp <;> rfl

/-- A chain of a call of numbers and a call of the member with a whole number makes the schema of the comparison. -/
theorem result_compile_comparison (cmp : Comparison) (aloneNumber : c.LeavesAlone "number")
    (alone : c.LeavesAlone cmp.member.name) {b : Int} (hb : -2 ^ 63 ≤ b ∧ b < 2 ^ 64) :
    (c.compile (.seq [.seq [.str (c.marker ++ "number")],
      .seq [.str (c.marker ++ cmp.member.name), cmp.argument (.whole b hb)]])).result = .ok (.schema (cmp.schema (.whole b hb))) := by
  have marked : Text.occursIn c.marker (c.marker ++ "number") = true := (Text.occursIn_iff _ _).mpr ⟨"", "number", by simp⟩
  have plain : ∀ call ∈ [(⟨c.marker ++ "number", []⟩ : Call), ⟨c.marker ++ cmp.member.name, [cmp.argument (.whole b hb)]⟩],
      Node.isInvocation c.marker call.raw = false := by
    intro call hcall
    rcases List.mem_pair.mp hcall with rfl | rfl
    · rfl
    · cases cmp <;> rfl
  have hnumber : c.called none ⟨c.marker ++ "number", []⟩ = .ok (.schema (.ofTag .number)) := c.called_root .number aloneNumber none
  refine (c.result_compile_calls ⟨c.marker ++ "number", []⟩ [⟨c.marker ++ cmp.member.name, [cmp.argument (.whole b hb)]⟩]
    marked plain).trans ?_
  rw [hnumber]
  show List.foldlM (fun acc call => c.called (some acc) call) _ _ = _
  rw [List.foldlM_cons, c.called_comparison cmp alone hb]
  rfl

/-- A number is compared with a bound, or with the entry of a set, as both are rounded to binary64 numbers. So whole numbers compare
as such, unless two different ones are rounded alike; and these are both of 2^53 at least in magnitude. -/
theorem compile_comparison (cmp : Comparison) (aloneNumber : c.LeavesAlone "number") (alone : c.LeavesAlone cmp.member.name)
    {a b : Int} (ha : -2 ^ 63 ≤ a ∧ a < 2 ^ 64) (hb : -2 ^ 63 ≤ b ∧ b < 2 ^ 64) :
    ∃ s, (c.compile (.seq [.seq [.str (c.marker ++ "number")],
        .seq [.str (c.marker ++ cmp.member.name), cmp.argument (.whole b hb)]])).result = .ok (.schema s) ∧
      (s.isValid (some (.num (.whole a ha))) = true ↔ cmp.Holds (Binary64.rounded a) (Binary64.rounded b)) ∧
      ((a ≠ b → Binary64.rounded a ≠ Binary64.rounded b) → (s.isValid (some (.num (.whole a ha))) = true ↔ cmp.Holds a b)) ∧
      (a ≠ b → Binary64.rounded a = Binary64.rounded b → 2 ^ 53 ≤ a.natAbs ∧ 2 ^ 53 ≤ b.natAbs) := by
  have hvalid := cmp.isValid_whole_iff ha hb
  refine ⟨_, c.result_compile_comparison cmp aloneNumber alone hb, hvalid, fun apart => ?_, fun hne heq => ?_⟩
  · exact hvalid.trans (cmp.holds_rounded_iff apart)
  · exact ⟨Binary64.le_of_rounded_eq hne heq, Binary64.le_of_rounded_eq hne.symm heq.symm⟩

namespace ComparisonsWitness

open SmallCase (compiler)

/-- The greatest number up to which all whole numbers are binary64 numbers. -/
def limit : Number := .whole (2 ^ 53) (by decide)

/-- The number after it, which is rounded to it. -/
def rounds : Number := .whole (2 ^ 53 + 1) (by decide)

/-- The number after that, which is not rounded. -/
def beyond : Number := .whole (2 ^ 53 + 2) (by decide)

/-- A chain that compares numbers with that number. -/
def compared (cmp : Comparison) : Node :=
  .seq [.seq [.str "do.number"], .seq [.str ("do." ++ cmp.member.name), cmp.argument limit]]

theorem alone (name : String) : compiler.LeavesAlone name := compiler.leavesAlone_of_empty rfl name

theorem compile_compared :
    (compiler.LeavesAlone "number" ∧ compiler.LeavesAlone Comparison.moreThan.member.name ∧
      ((2 ^ 53 + 2 : Int) ≠ 2 ^ 53 → Binary64.rounded (2 ^ 53 + 2) ≠ Binary64.rounded (2 ^ 53)) ∧
      (2 ^ 53 + 1 : Int) ≠ 2 ^ 53 ∧ Binary64.rounded (2 ^ 53 + 1) = Binary64.rounded (2 ^ 53)) ∧
    (∃ s, (compiler.compile (compared .moreThan)).result = .ok (.schema s) ∧ s.isValid (some (.num beyond)) = true) ∧
    2 ^ 53 ≤ (2 ^ 53 + 1 : Int).natAbs ∧ 2 ^ 53 ≤ (2 ^ 53 : Int).natAbs := by
  have apart : (2 ^ 53 + 2 : Int) ≠ 2 ^ 53 → Binary64.rounded (2 ^ 53 + 2) ≠ Binary64.rounded (2 ^ 53) := by decide +kernel
  have hne : (2 ^ 53 + 1 : Int) ≠ 2 ^ 53 := by decide
  have heq : Binary64.rounded (2 ^ 53 + 1) = Binary64.rounded (2 ^ 53) := by decide +kernel
  obtain ⟨s, hs, -, hexact, -⟩ := compiler.compile_comparison .moreThan (alone _) (alone _) (a := 2 ^ 53 + 2) (b := 2 ^ 53)
    (by decide) (by decide)
  obtain ⟨-, -, -, -, hlarge⟩ := compiler.compile_comparison .moreThan (alone _) (alone _) (a := 2 ^ 53 + 1) (b := 2 ^ 53)
    (by decide) (by decide)
  have hmore : Comparison.moreThan.Holds (2 ^ 53 + 2) (2 ^ 53) := by
    unfold Comparison.Holds
    decide
  exact ⟨⟨alone _, alone _, apart, hne, heq⟩, ⟨s, hs, (hexact apart).mpr hmore⟩, hlarge hne heq⟩

/-- A number that is more than the bound is refused, and one that differs from the entry of a set is taken for it. -/
theorem compared_as_rounded :
    ((∃ s, (compiler.compile (compared .moreThan)).result = .ok (.schema s) ∧ s.isValid (some (.num rounds)) = false) ∧
      Comparison.moreThan.Holds (2 ^ 53 + 1) (2 ^ 53)) ∧
    (∃ s, (compiler.compile (compared .notOneOf)).result = .ok (.schema s) ∧ s.isValid (some (.num rounds)) = false) ∧
      Comparison.notOneOf.Holds (2 ^ 53 + 1) (2 ^ 53) := by
  have hcompile : ∀ cmp, (compiler.compile (compared cmp)).result = .ok (.schema (cmp.schema limit)) :=
    fun cmp => compiler.result_compile_comparison cmp (alone _) (alone _) (by decide)
  have hrounds : Binary64.rounded (2 ^ 53 + 1) = Binary64.rounded (2 ^ 53) := by decide +kernel
  have hvalid : ∀ cmp : Comparison, ¬cmp.Holds (Binary64.rounded (2 ^ 53)) (Binary64.rounded (2 ^ 53)) →
      (cmp.schema limit).isValid (some (.num rounds)) = false := by
    intro cmp h
    have hiff := cmp.isValid_whole_iff (a := 2 ^ 53 + 1) (b := 2 ^ 53) (by decide) (by decide)
    rw [hrounds] at hiff
    exact Bool.eq_false_iff.mpr fun hvalid => h (hiff.mp hvalid)
  refine ⟨⟨⟨_, hcompile .moreThan, hvalid _ ?_⟩, ?_⟩, ⟨_, hcompile .notOneOf, hvalid _ ?_⟩, ?_⟩
  · exact Int.lt_irrefl _
  · unfold Comparison.Holds
    decide
  · exact fun h => h rfl
  · unfold Comparison.Holds
    decide

end ComparisonsWitness

end Compiler

end Schemata
