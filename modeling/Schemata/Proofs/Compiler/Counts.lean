import Mathlib.Data.Rat.Cast.Order
import Schemata.Proofs.Compiler.FalsyArguments

/-!
# Counts

A number is the count that it is exactly, if it is a whole one from zero to 2^64 - 1, and no count otherwise, with one exception: the
binary64 number 2^64 passes as the largest count, which is less than it (`Arguments.countOf?_of_limit`). So a call that bounds the size of
texts or arrays bounds it by the number that is written, or fails, unless that is 2^64.
-/

namespace Schemata

/-! ## Exact values -/

/-- A value is a whole number when it is one of units of one. -/
theorem Binary64.toInt?_eq_some_iff {x : Binary64} {n : Int} : x.toInt? = some n ↔ (x.units : ℚ) / (one : ℚ) = n := by
  have hone : (one : ℚ) ≠ 0 := Nat.cast_ne_zero.mpr (Nat.ne_of_gt one_pos)
  have hone' : (one : Int) ≠ 0 := Int.natCast_ne_zero.mpr (Nat.ne_of_gt one_pos)
  have hexact : (x.units : ℚ) / (one : ℚ) = n ↔ x.units = n * one := by
    rw [div_eq_iff hone]
    exact_mod_cast Iff.rfl
  rw [hexact, toInt?]
  by_cases hwhole : x.isWhole = true
  · have hdvd : (one : Int) ∣ x.units := Int.dvd_of_emod_eq_zero (beq_iff_eq.mp hwhole)
    rw [if_pos hwhole, Option.some.injEq, Int.ediv_eq_iff_eq_mul_left hone' hdvd]
  · rw [if_neg hwhole]
    constructor
    · intro h
      cases h
    · intro h
      refine (hwhole ?_).elim
      rw [isWhole, h, Int.mul_emod_left]
      rfl

/-- The exact value of a number. -/
def Number.value : Number → ℚ
  | .whole n _ => n
  | .real x => x.units / (Binary64.one : ℚ)

/-! ## Counts -/

namespace Arguments

/-- A number is the count that it is exactly, below 2^64, unless it is that. -/
theorem countOf?_eq_some_iff {x : Number} (hx : x.value ≠ (2 ^ 64 : Nat)) {n : Nat} :
    countOf? x = some n ↔ x.value = n ∧ n < 2 ^ 64 := by
  cases x with
  | whole m inRange =>
    have hvalue : (Number.whole m inRange).value = n ↔ m = n := by
      rw [Number.value]
      exact_mod_cast Iff.rfl
    rw [hvalue, countOf?]
    split
    · rw [Option.some.injEq]
      omega
    · constructor
      · intro h
        cases h
      · rintro ⟨h, -⟩
        omega
  | real x =>
    have hvalue : (Number.real x).value = n ↔ x.toInt? = some (n : Int) := by
      rw [Binary64.toInt?_eq_some_iff, Number.value, Int.cast_natCast]
    rw [hvalue, countOf?]
    cases hint : x.toInt? with
    | none => simp
    | some m =>
      have hlimit : m ≠ 2 ^ 64 := by
        rintro rfl
        exact hx ((Binary64.toInt?_eq_some_iff.mp hint).trans (Int.cast_natCast (2 ^ 64)))
      simp only [Option.some.injEq]
      split
      · rw [Option.some.injEq, maxCount]
        omega
      · constructor
        · intro h
          cases h
        · rintro ⟨h, hn⟩
          omega

/-- The number 2^64 is taken for the largest count. -/
theorem countOf?_of_limit {x : Number} (hx : x.value = (2 ^ 64 : Nat)) : countOf? x = some maxCount := by
  cases x with
  | whole m inRange =>
    have hm : m = 2 ^ 64 := by
      rw [Number.value] at hx
      exact_mod_cast hx
    omega
  | real x =>
    have hint : x.toInt? = some (2 ^ 64) := by
      rw [Binary64.toInt?_eq_some_iff]
      exact hx.trans (Int.cast_natCast (2 ^ 64)).symm
    rw [countOf?, hint]
    rfl

/-- A number is read as a count. -/
theorem count_of_num (args : Arguments) (position : Nat) {x : Number} (h : args.get? position = some (.literal (.num x))) :
    args.count position = (countOf? x).elim (.error (args.invalid position "a non-negative integer")) .ok := by
  rw [count, literal?, h]

end Arguments

/-! ## Bounds on sizes -/

namespace Member

/-- The rule that a member adds for a count, to schemas of a kind whose values have sizes. -/
def sizeRule? : Member → Tag → Option (Nat → Rule)
  | .min, .string => some .minLength
  | .min, .array => some .minSize
  | .max, .string => some .maxLength
  | .max, .array => some .maxSize
  | .length, .string => some .exactLength
  | .length, .array => some .exactSize
  | _, _ => none

variable {member : Member} {tag : Tag} {make : Nat → Rule}

/-- Schemas of the kind have such a member. -/
theorem named?_of_sizeRule? (h : member.sizeRule? tag = some make) : named? tag member.name = some member := by
  unfold sizeRule? at h
  split at h
  case h_7 => cases h
  all_goals rfl

/-- Such a member takes no pattern. -/
theorem takesPattern_of_sizeRule? (h : member.sizeRule? tag = some make) (s : Schema) :
    (Binding.member member s).takesPattern = false := by
  unfold sizeRule? at h
  split at h
  case h_7 => cases h
  all_goals rfl

/-- Such a member adds the rule for the count that it is given. -/
theorem build_of_sizeRule? {s : Schema} (h : member.sizeRule? s.tag = some make) (args : Arguments) :
    member.build s args = bounded s args (make <$> args.countOr 0 0) := by
  unfold sizeRule? at h
  split at h
  case h_7 => cases h
  all_goals
    rename_i htag
    cases h
    simp only [build, minRule, maxRule, lengthRule, htag, map_eq_pure_bind]

end Member

namespace Compiler

variable (c : Compiler)

/-- A call of such a member with a number adds the rule for the count that the number is. -/
theorem result_compile_size (empty : c.registry = Registry.empty) {first rest : List Node} {s : Schema}
    (hchain : (c.compile (.seq (.seq first :: rest))).result = .ok (.schema s)) {member : Member} {make : Nat → Rule}
    (hsize : member.sizeRule? s.tag = some make) (x : Number) :
    (c.compile (.seq (.seq first :: (rest ++ [.seq [.str (c.marker ++ member.name), .num x]])))).result =
      (Arguments.countOf? x).elim (.error (.build (.invalidArgument member.name 0 "a non-negative integer")))
        fun n => .ok (.schema (s.rule (make n))) := by
  rw [c.result_compile_call empty hchain (Member.named?_of_sizeRule? hsize),
    c.argumentsOf_num (Member.takesPattern_of_sizeRule? hsize s)]
  show ((member.build s ⟨member.name, _⟩).map Term.schema).mapError CompileError.build = _
  rw [Member.build_of_sizeRule? hsize]
  by_cases hzero : x.toBinary64.same .zero = true
  · -- A zero is not passed, and without arguments the count is zero.
    rw [if_pos hzero, Arguments.countOf?_of_same_zero hzero]
    rfl
  · rw [if_neg hzero]
    have hcount : Arguments.countOr ⟨member.name, [.literal (.num x)]⟩ 0 0 =
        (Arguments.countOf? x).elim (.error (.invalidArgument member.name 0 "a non-negative integer")) .ok :=
      Arguments.count_of_num ⟨member.name, [.literal (.num x)]⟩ 0 rfl
    rw [hcount]
    cases Arguments.countOf? x <;> rfl

/-- A number that is an argument is the count that it is exactly, if it is a whole number from zero to 2^64 - 1, and no count
otherwise; so a call that bounds sizes by a number bounds them by exactly that number, or fails. The number 2^64 alone, which no whole
number of a document is, is taken for the largest count. -/
theorem counts_exact_below_limit (empty : c.registry = Registry.empty) :
    (∀ (args : Arguments) (position : Nat) (x : Number), args.get? position = some (.literal (.num x)) →
      (x.value ≠ (2 ^ 64 : Nat) → ∀ n : Nat, args.count position = .ok n ↔ x.value = n ∧ n < 2 ^ 64) ∧
        (x.value = (2 ^ 64 : Nat) → args.count position = .ok (2 ^ 64 - 1))) ∧
    ∀ {first rest : List Node} {s : Schema}, (c.compile (.seq (.seq first :: rest))).result = .ok (.schema s) →
      ∀ {member : Member} {make : Nat → Rule}, member.sizeRule? s.tag = some make → ∀ x : Number, x.value ≠ (2 ^ 64 : Nat) → ∀ t,
        (c.compile (.seq (.seq first :: (rest ++ [.seq [.str (c.marker ++ member.name), .num x]])))).result = .ok t ↔
          ∃ n : Nat, (x.value = n ∧ n < 2 ^ 64) ∧ t = .schema (s.rule (make n)) := by
  refine ⟨fun args position x hget => ?_, fun hchain _ _ hsize x hx t => ?_⟩
  · rw [args.count_of_num position hget]
    refine ⟨fun hx n => ?_, fun hx => ?_⟩
    · rw [← Arguments.countOf?_eq_some_iff hx]
      cases Arguments.countOf? x <;> simp
    · rw [Arguments.countOf?_of_limit hx]
      rfl
  · rw [c.result_compile_size empty hchain hsize]
    simp only [← Arguments.countOf?_eq_some_iff hx]
    cases Arguments.countOf? x with
    | none => simp
    | some n => simp [eq_comm]

namespace CountsWitness

open SmallCase (compiler)

/-- Four, as a binary64 number. -/
def four : Number :=
  .real ⟨false, 1025 * 2 ^ 52, by decide⟩

/-- Texts, and what they are called by. -/
def text : List Node := [.seq [.str "do.string"]]

theorem value_four : four.value = (4 : Nat) := by
  have hint : (⟨false, 1025 * 2 ^ 52, by decide⟩ : Binary64).toInt? = some 4 := by decide +kernel
  exact Binary64.toInt?_eq_some_iff.mp hint

theorem count_four :
    (Arguments.get? ⟨"min", [.literal (.num four)]⟩ 0 = some (.literal (.num four)) ∧ four.value ≠ (2 ^ 64 : Nat) ∧
      Arguments.count ⟨"min", [.literal (.num four)]⟩ 0 = .ok 4) ∧
    (compiler.compile (.seq text)).result = .ok (.schema (.ofTag .string)) ∧
    Member.min.sizeRule? (Schema.ofTag .string).tag = some .minLength ∧
    (compiler.compile (.seq (text ++ [.seq [.str "do.min", .num four]]))).result =
      .ok (.schema ((Schema.ofTag .string).rule (.minLength 4))) := by
  have inexact : four.value ≠ (2 ^ 64 : Nat) := by
    rw [value_four]
    exact Nat.cast_injective.ne (by decide)
  have htext : (compiler.compile (.seq text)).result = .ok (.schema (.ofTag .string)) := rfl
  have hsize : Member.min.sizeRule? (Schema.ofTag .string).tag = some .minLength := rfl
  obtain ⟨hcount, hcompile⟩ := compiler.counts_exact_below_limit rfl
  refine ⟨⟨rfl, inexact, ((hcount _ 0 four rfl).1 inexact 4).mpr ⟨value_four, by decide⟩⟩, htext, hsize, ?_⟩
  exact (hcompile htext hsize four inexact _).mpr ⟨4, ⟨value_four, by decide⟩, rfl⟩

/-- The number 2^64, which only binary64 numbers can be. -/
def limit : Number :=
  .real ⟨false, 1087 * 2 ^ 52, by decide⟩

/-- The number is no count, and it is taken for the one before it, also as the least length of texts. -/
theorem limit_is_cut_off :
    limit.value = (2 ^ 64 : Nat) ∧ Arguments.count ⟨"min", [.literal (.num limit)]⟩ 0 = .ok (2 ^ 64 - 1) ∧
    (compiler.compile (.seq (text ++ [.seq [.str "do.min", .num limit]]))).result =
      .ok (.schema ((Schema.ofTag .string).rule (.minLength (2 ^ 64 - 1)))) ∧
    limit.value ≠ (2 ^ 64 - 1 : Nat) := by
  have hint : (⟨false, 1087 * 2 ^ 52, by decide⟩ : Binary64).toInt? = some ((2 ^ 64 : Nat) : Int) := by decide +kernel
  have hvalue : limit.value = (2 ^ 64 : Nat) := (Binary64.toInt?_eq_some_iff.mp hint).trans (Int.cast_natCast _)
  have htext : (compiler.compile (.seq text)).result = .ok (.schema (.ofTag .string)) := rfl
  have hsize : Member.min.sizeRule? (Schema.ofTag .string).tag = some .minLength := rfl
  refine ⟨hvalue, by decide +kernel, (compiler.result_compile_size rfl htext hsize limit).trans ?_, ?_⟩
  · rw [Arguments.countOf?_of_limit hvalue]
    rfl
  · rw [hvalue]
    exact Nat.cast_injective.ne (by decide)

end CountsWitness

end Compiler

end Schemata
