import Mathlib.Logic.Relation
import Schemata.Proofs.Compiler.Requests

/-!
# Compiling ends

A procedure calls others only for smaller descriptions, or for the very items it was given and then in a fixed order (`Task.Below`):
whether a chain is an invocation or an invocation a chain is decided by the head of the items, which is the same for both. So calls
lead downwards however many of them there are (`below_of_calls`), there is one way to answer them all (`eq_outcome`), and a
compilation that may nest its calls deep enough ends with what the compiler gives (`compile_ends`).
-/

namespace Schemata

namespace Node

mutual

/-- How many items and fields there are in a description, at any depth. -/
def size (n : Node) : Nat :=
  match n with
  | .seq items => itemsSize items
  | .map fields => fieldsSize fields
  | _ => 0
termination_by structural n

/-- How many items and fields there are in some items, themselves included. -/
def itemsSize (items : List Node) : Nat :=
  match items with
  | [] => 0
  | n :: rest => 1 + size n + itemsSize rest
termination_by structural items

/-- How many items and fields there are in some fields, themselves included. -/
def fieldsSize (fields : List (String × Node)) : Nat :=
  match fields with
  | [] => 0
  | (_, n) :: rest => 1 + size n + fieldsSize rest
termination_by structural fields

end

/-- An item is smaller than the items it is one of. -/
theorem size_lt_of_mem {n : Node} {items : List Node} (h : n ∈ items) : n.size < itemsSize items := by
  induction items with
  | nil => cases h
  | cons first rest ih =>
    rw [itemsSize]
    rcases List.mem_cons.mp h with rfl | h
    · omega
    · have := ih h
      omega

/-- What follows a first item is smaller with it than without. -/
theorem itemsSize_lt_cons (n : Node) (rest : List Node) : itemsSize rest < itemsSize (n :: rest) := by
  rw [itemsSize]
  omega

/-- A field is smaller than the fields it is one of. -/
theorem size_lt_of_mem_fields {field : String × Node} {fields : List (String × Node)} (h : field ∈ fields) :
    field.2.size < fieldsSize fields := by
  induction fields with
  | nil => cases h
  | cons first rest ih =>
    rw [fieldsSize]
    rcases List.mem_cons.mp h with rfl | h
    · omega
    · have := ih h
      omega

end Node

namespace Compiler

/-! ## Calls go down -/

namespace Task

/-- The items that a call is about. -/
def items : Task → List Node
  | .node (.seq items) => items
  | .node _ => []
  | .shape _ => []
  | .sequence items => items
  | .chain items => items
  | .invocation items _ => items
  | .arguments raw => raw

/-- How much a call is about. -/
def size : Task → Nat
  | .node n => n.size
  | .shape fields => Node.fieldsSize fields
  | t => Node.itemsSize t.items

/-- When the turn of a procedure comes among those that are called for the same items: that of an invocation comes before that of a
chain if a sequence heads the items, and after it if not. -/
def turn (t : Task) : Nat :=
  match t.procedure with
  | .node => 3
  | .arguments => 3
  | .shape => 2
  | .sequence => 2
  | .invocation => if Node.ledBySequence t.items then 1 else 0
  | .chain => if Node.ledBySequence t.items then 0 else 1

/-- A call is about something smaller than another, or about the same items and later in turn. -/
def Below (t' t : Task) : Prop :=
  t'.size < t.size ∨ t'.size = t.size ∧ t'.items = t.items ∧ t'.turn < t.turn

/-- How deep the calls of a call may be nested. -/
def rank (t : Task) : Nat :=
  4 * t.size + t.turn

theorem turn_le (t : Task) : t.turn ≤ 3 := by
  unfold turn
  split
  · exact Nat.le_refl 3
  · exact Nat.le_refl 3
  · decide
  · decide
  · split <;> decide
  · split <;> decide

theorem turn_chain_lt (items : List Node) : (chain items).turn < (sequence items).turn := by
  unfold turn
  simp only [procedure]
  split <;> decide

theorem Below.trans {t t' t'' : Task} (h : t''.Below t') (h' : t'.Below t) : t''.Below t := by
  unfold Below at *
  rcases h with h | ⟨hsize, hitems, hturn⟩ <;> rcases h' with h' | ⟨hsize', hitems', hturn'⟩
  · exact Or.inl (by omega)
  · exact Or.inl (by omega)
  · exact Or.inl (by omega)
  · exact Or.inr ⟨hsize.trans hsize', hitems.trans hitems', by omega⟩

theorem Below.rank_lt {t t' : Task} (h : t'.Below t) : t'.rank < t.rank := by
  have hturn := t'.turn_le
  unfold Below at h
  unfold rank
  omega

/-- The same procedure is not below itself for the same items. -/
theorem Below.size_lt {t t' : Task} (h : t'.Below t) (same : t'.procedure = t.procedure) : t'.size < t.size := by
  rcases h with h | ⟨-, hitems, hturn⟩
  · exact h
  · unfold turn at hturn
    rw [same, hitems] at hturn
    exact (Nat.lt_irrefl _ hturn).elim

end Task

variable {c : Compiler}

/-- A procedure may call another, whatever the calls before that give. -/
def Calls (c : Compiler) (t t' : Task) : Prop :=
  (c.work t).Asks (.procedure t')

/-- A procedure calls another for something smaller, or for the same items and later in turn. -/
theorem Calls.below {t t' : Task} (hcalls : c.Calls t t') : t'.Below t := by
  have hsame : ∀ {t t' : Task}, t'.size = t.size → t'.items = t.items → t'.turn < t.turn → t'.Below t :=
    fun hsize hitems hturn => Or.inr ⟨hsize, hitems, hturn⟩
  cases requested_of_asks hcalls with
  | sequence items => exact hsame rfl rfl (Nat.lt_succ_self 2)
  | shape fields => exact hsame rfl rfl (Nat.lt_succ_self 2)
  | field h => exact Or.inl (Node.size_lt_of_mem_fields h)
  | chain h => exact hsame rfl rfl (Task.turn_chain_lt _)
  | item h => exact Or.inl (Node.size_lt_of_mem h)
  | first first rest =>
    have hfirst : Node.seq first ∈ Node.seq first :: rest := List.mem_cons_self
    exact Or.inl (Node.size_lt_of_mem hfirst)
  | further h acc => exact Or.inl (Node.size_lt_of_mem (List.mem_cons_of_mem _ h))
  | appended h => exact Or.inl (Node.size_lt_of_mem (List.mem_cons_of_mem _ h))
  | invocation h => exact hsame rfl rfl (by simp [Task.turn, Task.procedure, Task.items, h])
  | nested first rest receiver => exact hsame rfl rfl (Nat.lt_succ_self 0)
  | arguments name raw receiver => exact Or.inl (Node.itemsSize_lt_cons name raw)
  | pattern name s p rest receiver => exact Or.inl (Node.itemsSize_lt_cons name (.str s :: rest))
  | passed raw => exact hsame rfl rfl (Nat.lt_succ_self 2)

/-- However many calls lie between, a procedure is called below the one that led to the call. -/
theorem below_of_calls {t t' : Task} (h : Relation.TransGen c.Calls t t') : t'.Below t := by
  induction h with
  | single h => exact h.below
  | tail _ h ih => exact h.below.trans ih

/-! ## One answer for each call -/

/-- Work comes to the same with answers that agree on all calls that it may make. -/
theorem Work.answered_congr {α : Type} {answer answer' : (t : Task) → Traced t.Answer} {w : Work α}
    (h : ∀ t, w.Asks (.procedure t) → answer t = answer' t) : w.answered answer = w.answered answer' := by
  induction w with
  | ends result => rfl
  | records e next ih => exact bind_congr fun _ => ih fun t ht => h t (.afterEvent ht)
  | builds b args next ih => exact bind_congr fun t => ih t fun t' ht => h t' (.afterBuild t ht)
  | calls t next ih =>
    rw [answered, answered, h t .call]
    exact bind_congr fun a => ih a fun t' ht => h t' (.afterCall a ht)

/-- There is one way to answer every call as the work of its procedure comes to, and the compiler answers so. This is also so of some
calls only, if they lead to no others. -/
theorem eq_outcome {p : Task → Prop} {answer : (t : Task) → Traced t.Answer} (closed : ∀ t t', p t → c.Calls t t' → p t')
    (solves : ∀ t, p t → (c.work t).answered answer = answer t) (t : Task) (h : p t) : answer t = c.outcome t := by
  induction hrank : t.rank using Nat.strongRecOn generalizing t with
  | _ rank ih =>
    subst hrank
    rw [← solves t h, ← answered_work]
    exact Work.answered_congr fun t' ht => ih t'.rank (Calls.below ht).rank_lt t' (closed t t' h ht) rfl

/-! ## Nesting calls -/

/-- What work comes to when only some calls of procedures are answered; nothing if one is not that is made. -/
def Work.attempted {α : Type} (answer? : (t : Task) → Option (Traced t.Answer)) : Work α → Option (Traced α)
  | .ends result => some (.ofExcept result)
  | .records e next => (next.attempted answer?).map fun x => Traced.record e >>= fun _ => x
  | .builds b args next =>
    match (b.call args).mapError .build with
    | .ok t => (next t).attempted answer?
    | .error e => some (.fail e)
  | .calls t next =>
    match answer? t with
    | none => none
    | some ⟨events, .ok a⟩ => ((next a).attempted answer?).map fun x => ⟨events ++ x.events, x.result⟩
    | some ⟨events, .error e⟩ => some ⟨events, .error e⟩

/-- Where every call that the work may make is answered, it comes to what it comes to with all calls answered. -/
theorem Work.attempted_eq {α : Type} {answer? : (t : Task) → Option (Traced t.Answer)} {answer : (t : Task) → Traced t.Answer}
    {w : Work α} (h : ∀ t, w.Asks (.procedure t) → answer? t = some (answer t)) :
    w.attempted answer? = some (w.answered answer) := by
  induction w with
  | ends result => rfl
  | records e next ih =>
    rw [attempted, ih fun t ht => h t (.afterEvent ht)]
    rfl
  | builds b args next ih =>
    rw [attempted, answered]
    cases (b.call args).mapError CompileError.build with
    | ok t => exact ih t fun t' ht => h t' (.afterBuild t ht)
    | error e => rfl
  | calls t next ih =>
    rw [attempted, answered, h t .call]
    obtain ⟨events, result⟩ := answer t
    cases result with
    | ok a =>
      simp only
      rw [ih a fun t' ht => h t' (.afterCall a ht)]
      rfl
    | error e => rfl

/-- What a call comes to when calls are nested at most so deep; nothing if that is not deep enough. -/
def nested (c : Compiler) : Nat → (t : Task) → Option (Traced t.Answer)
  | 0, _ => none
  | depth + 1, t => (c.work t).attempted (c.nested depth)

/-- A call comes to what the compiler gives when calls may be nested deeper than its rank. -/
theorem nested_eq_outcome {t : Task} {depth : Nat} (h : t.rank < depth) : c.nested depth t = some (c.outcome t) := by
  induction depth generalizing t with
  | zero => exact (Nat.not_lt_zero _ h).elim
  | succ depth ih =>
    have hcalls : ∀ t', (c.work t).Asks (.procedure t') → c.nested depth t' = some (c.outcome t') := by
      intro t' ht
      have hbelow : t'.Below t := Calls.below ht
      exact ih (Nat.lt_of_lt_of_le hbelow.rank_lt (Nat.le_of_lt_succ h))
    rw [nested, Work.attempted_eq hcalls, answered_work]

/-- Compiling ends. A procedure calls others for something smaller, or for the same items and later in turn, so a procedure that is
called again, however many calls later, is called for something smaller, and never for the items it was called for before; this holds
also where a text has become a pattern in front of the arguments. So calls are nested no deeper than the rank of the first, and what
they come to is what the compiler gives. -/
theorem compile_ends (c : Compiler) :
    (∀ t t', c.Calls t t' → t'.Below t) ∧
      (∀ t t', Relation.TransGen c.Calls t t' → t'.procedure = t.procedure → t'.size < t.size) ∧
      (∀ t depth, t.rank < depth → c.nested depth t = some (c.outcome t)) ∧
      ∀ n depth, 4 * n.size + 3 < depth → c.nested depth (.node n) = some (c.compile n) :=
  ⟨fun _ _ h => h.below, fun _ _ h same => (below_of_calls h).size_lt same, fun _ _ h => nested_eq_outcome h,
    fun n _ h => nested_eq_outcome (t := .node n) h⟩

namespace EndsWitness

open SmallCase (compiler)

/-- A chain of calls for labelled texts. -/
def labelled : List Node :=
  [.seq [.str "do.string"], .seq [.str "do.label", .str "word"]]

/-- A chain with one call, for arrays, whose arguments are that chain. -/
def arrays : List Node :=
  [.seq (.str "do.array" :: labelled)]

/-- The chain of the arguments is called for while the chain around it is at work. -/
theorem calls_labelled : Relation.TransGen compiler.Calls (.chain arrays) (.chain labelled) := by
  have hfirst : compiler.Calls (.chain arrays) (.invocation (.str "do.array" :: labelled) none) := .call
  have harguments : compiler.Calls (.invocation (.str "do.array" :: labelled) none) (.arguments labelled) := .call
  have hsequence : compiler.Calls (.arguments labelled) (.sequence labelled) := .call
  have hchain : compiler.Calls (.sequence labelled) (.chain labelled) := .call
  exact (((Relation.TransGen.single hfirst).tail harguments).tail hsequence).tail hchain

theorem compile_arrays_ends :
    (compiler.Calls (.sequence labelled) (.chain labelled) ∧
      Relation.TransGen compiler.Calls (.chain arrays) (.chain labelled) ∧
      (Task.chain labelled).procedure = (Task.chain arrays).procedure ∧
      (Task.chain arrays).rank < 29 ∧ 4 * (Node.seq arrays).size + 3 < 32) ∧
    (Task.chain labelled).Below (.sequence labelled) ∧
    (Task.chain labelled).size < (Task.chain arrays).size ∧
    compiler.nested 29 (.chain arrays) = some (compiler.outcome (.chain arrays)) ∧
    compiler.nested 32 (.node (.seq arrays)) = some (compiler.compile (.seq arrays)) ∧
    (compiler.compile (.seq arrays)).result = .ok (.schema ((Schema.ofTag .array).of ((Schema.ofTag .string).label "word"))) := by
  obtain ⟨hbelow, hagain, hnested, hnode⟩ := compiler.compile_ends
  have hchain : compiler.Calls (.sequence labelled) (.chain labelled) := .call
  exact ⟨⟨hchain, calls_labelled, rfl, by decide, by decide⟩, hbelow _ _ hchain, hagain _ _ calls_labelled rfl,
    hnested _ 29 (by decide), hnode _ 32 (by decide), rfl⟩

end EndsWitness

end Compiler

end Schemata
