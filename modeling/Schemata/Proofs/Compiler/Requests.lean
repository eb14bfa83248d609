import Schemata.Proofs.Compiler.Procedures
import Schemata.Proofs.Outcome

/-!
# What procedures ask for

The calls that some work makes, of procedures and of builders, whatever the calls before them give (`Work.Asks`). Each procedure makes
only the calls of a list (`Compiler.Requested`).
-/

namespace Schemata

/-- A sequence heads some items. -/
def Node.ledBySequence : List Node → Bool
  | .seq _ :: _ => true
  | _ => false

namespace Compiler

/-! ## Calls -/

/-- A call that some work makes, of a procedure or of a builder. -/
inductive Request where
  | procedure (t : Task)
  | builder (b : Binding) (args : List Term)

namespace Work

variable {α β : Type} {r : Request}

/-- Some work makes a call, for some of what the calls before it may give. -/
inductive Asks {α : Type} : Work α → Request → Prop where
  | call {t : Task} {next : t.Answer → Work α} : Asks (.calls t next) (.procedure t)
  | build {b : Binding} {args : List Term} {next : Term → Work α} : Asks (.builds b args next) (.builder b args)
  | afterEvent {e : Event} {next : Work α} {r : Request} (h : Asks next r) : Asks (.records e next) r
  | afterBuild {b : Binding} {args : List Term} {next : Term → Work α} {r : Request} (t : Term) (h : Asks (next t) r) :
      Asks (.builds b args next) r
  | afterCall {t : Task} {next : t.Answer → Work α} {r : Request} (a : t.Answer) (h : Asks (next a) r) : Asks (.calls t next) r

/-- What has ended asks for nothing. -/
theorem not_asks_ends {result : Except CompileError α} : ¬(ends result).Asks r :=
  nofun

theorem not_asks_recordIf {condition : Bool} {e : Event} : ¬(recordIf condition e).Asks r := by
  cases condition
  · exact nofun
  · rintro (_ | _ | h)
    cases h

/-- What follows on a result asks only if there is one. -/
theorem asks_ends_bind {result : Except CompileError α} {f : α → Work β} (h : (ends result >>= f).Asks r) :
    ∃ a, result = .ok a ∧ (f a).Asks r := by
  cases result with
  | ok a => exact ⟨a, rfl, h⟩
  | error e => cases h

/-- The call of a procedure asks for that call. -/
theorem eq_of_asks_call {t : Task} (h : (call t).Asks r) : r = .procedure t := by
  cases h with
  | call => rfl
  | afterCall a h => cases h

/-- The call of a builder asks for that call. -/
theorem eq_of_asks_build {b : Binding} {args : List Term} (h : (build b args).Asks r) : r = .builder b args := by
  cases h with
  | build => rfl
  | afterBuild t h => cases h

/-- What is asked for is asked for by the first part of the work or by what follows. -/
theorem asks_bind {w : Work α} {f : α → Work β} (h : (w >>= f).Asks r) : w.Asks r ∨ ∃ a, (f a).Asks r := by
  induction w with
  | ends result =>
    cases result with
    | ok a => exact Or.inr ⟨a, h⟩
    | error e => cases h
  | records e next ih =>
    cases h with
    | afterEvent h => exact (ih h).imp_left .afterEvent
  | builds b args next ih =>
    cases h with
    | build => exact Or.inl .build
    | afterBuild t h => exact (ih t h).imp_left (.afterBuild t)
  | calls t next ih =>
    cases h with
    | call => exact Or.inl .call
    | afterCall a h => exact (ih a h).imp_left (.afterCall a)

theorem asks_map {w : Work α} {f : α → β} (h : (f <$> w).Asks r) : w.Asks r := by
  rw [map_eq_pure_bind] at h
  exact (asks_bind h).resolve_right fun ⟨_, h⟩ => not_asks_ends h

/-- What is asked for item by item is asked for by one of the items. -/
theorem asks_mapM {f : α → Work β} {items : List α} (h : (items.mapM f).Asks r) : ∃ item ∈ items, (f item).Asks r := by
  induction items with
  | nil => cases h
  | cons first rest ih =>
    rw [List.mapM_cons] at h
    rcases asks_bind h with h | ⟨_, h⟩
    · exact ⟨first, List.mem_cons_self, h⟩
    · rcases asks_bind h with h | ⟨_, h⟩
      · obtain ⟨item, hm, h⟩ := ih h
        exact ⟨item, List.mem_cons_of_mem _ hm, h⟩
      · cases h

end Work

/-- The calls that each procedure may make. -/
inductive Requested (c : Compiler) : Task → Request → Prop where
  | sequence (items : List Node) : Requested c (.node (.seq items)) (.procedure (.sequence items))
  | shape (fields : List (String × Node)) : Requested c (.node (.map fields)) (.procedure (.shape fields))
  | field {fields : List (String × Node)} {field : String × Node} (h : field ∈ fields) :
      Requested c (.shape fields) (.procedure (.node field.2))
  | chain {items : List Node} (h : Node.isInvocation c.marker items = true) :
      Requested c (.sequence items) (.procedure (.chain items))
  | item {items : List Node} {n : Node} (h : n ∈ items) : Requested c (.sequence items) (.procedure (.node n))
  | first (first rest : List Node) : Requested c (.chain (.seq first :: rest)) (.procedure (.invocation first none))
  | further {first rest items : List Node} (h : .seq items ∈ rest) (acc : Term) :
      Requested c (.chain (.seq first :: rest)) (.procedure (.invocation items (some acc)))
  | appended {first rest : List Node} {n : Node} (h : n ∈ rest) :
      Requested c (.chain (.seq first :: rest)) (.procedure (.node n))
  | shaped (first rest : List Node) (b : Binding) (args : List Term) :
      Requested c (.chain (.seq first :: rest)) (.builder b args)
  | invocation {items : List Node} (h : Node.ledBySequence items = false) :
      Requested c (.chain items) (.procedure (.invocation items none))
  | nested (first rest : List Node) (receiver : Option Term) :
      Requested c (.invocation (.seq first :: rest) receiver) (.procedure (.chain (.seq first :: rest)))
  | arguments (name : Node) (raw : List Node) (receiver : Option Term) :
      Requested c (.invocation (name :: raw) receiver) (.procedure (.arguments raw))
  | pattern (name : Node) (s : String) (p : Pattern) (rest : List Node) (receiver : Option Term) :
      Requested c (.invocation (name :: .str s :: rest) receiver) (.procedure (.arguments (.pattern p :: rest)))
  | called (name : Node) (raw : List Node) (receiver : Option Term) (b : Binding) (args : List Term) :
      Requested c (.invocation (name :: raw) receiver) (.builder b args)
  | passed (raw : List Node) : Requested c (.arguments raw) (.procedure (.sequence raw))

variable {c : Compiler} {r : Request}

open Work

/-- A chain that goes on with a shape calls builders only. -/
theorem builder_of_asks_shaped {acc : Term} (h : (c.shaped acc).Asks r) : ∃ b args, r = .builder b args := by
  unfold shaped at h
  split at h
  · cases h with
    | afterEvent h => exact ⟨_, _, eq_of_asks_build h⟩
  · split at h
    · cases h
    · cases h with
      | afterEvent h => exact ⟨_, _, eq_of_asks_build h⟩
  · cases h
  · cases h

/-- What the elements of a chain ask for. -/
theorem requested_of_asks_followed {first elements : List Node} {step : Nat} {acc : Term}
    (h : (c.followed elements step acc).Asks r) {rest : List Node} (hsub : elements ⊆ rest) :
    c.Requested (.chain (.seq first :: rest)) r := by
  induction elements generalizing step acc with
  | nil => cases h
  | cons n elements ih =>
    have hn : n ∈ rest := hsub List.mem_cons_self
    have happended : ∀ {n : Node}, n ∈ rest → (append acc <$> call (.node n)).Asks r →
        c.Requested (.chain (.seq first :: rest)) r := by
      intro n hn h
      rw [eq_of_asks_call (asks_map h)]
      exact .appended hn
    unfold followed at h
    rcases asks_bind h with h | ⟨acc, h⟩
    · unfold extended at h
      split at h
      · rw [eq_of_asks_call h]
        exact .further hn acc
      · split at h
        · obtain ⟨b, args, rfl⟩ := builder_of_asks_shaped h
          exact .shaped first rest b args
        · exact happended hn h
      · exact happended hn h
    · rcases asks_bind h with h | ⟨_, h⟩
      · exact (not_asks_recordIf h).elim
      · exact ih h (List.subset_of_cons_subset hsub)

/-- The arguments are as they are written, or a text in the first place has become a pattern. -/
theorem eq_or_pattern_of_coerced {raw raw' : List Node} (h : coerced raw = .ok raw') :
    raw' = raw ∨ ∃ s p rest, raw = .str s :: rest ∧ raw' = .pattern p :: rest := by
  unfold coerced at h
  split at h
  · rename_i lead hlead
    unfold leadingPattern? at hlead
    split at hlead
    · rename_i s rest
      cases hlead
      obtain ⟨p, -, rfl⟩ := map_eq_ok_iff.mp h
      exact Or.inr ⟨s, p, rest, rfl, rfl⟩
    · cases hlead
      cases h
    · cases hlead
      cases h
    · cases hlead
  · cases h
    exact Or.inl rfl

/-- What an invocation that a name heads asks for. -/
theorem requested_of_asks_invocation {name : Node} (hname : ∀ items, name ≠ .seq items) {raw : List Node} {receiver : Option Term}
    (h : (c.work (.invocation (name :: raw) receiver)).Asks r) : c.Requested (.invocation (name :: raw) receiver) r := by
  rw [c.work_name hname] at h
  obtain ⟨binding, -, h⟩ := asks_ends_bind h
  rcases asks_bind h with h | ⟨_, h⟩
  · exact (not_asks_recordIf h).elim
  · obtain ⟨raw', hraw, h⟩ := asks_ends_bind h
    rcases asks_bind h with h | ⟨args, h⟩
    · rw [eq_of_asks_call h]
      have hwritten : raw' = raw ∨ ∃ s p rest, raw = .str s :: rest ∧ raw' = .pattern p :: rest := by
        split at hraw
        · exact eq_or_pattern_of_coerced hraw
        · cases hraw
          exact Or.inl rfl
      rcases hwritten with rfl | ⟨s, p, rest, rfl, rfl⟩
      · exact .arguments name raw' receiver
      · exact .pattern name s p rest receiver
    · rw [eq_of_asks_build h]
      exact .called name raw receiver binding args

/-- What the work of a procedure asks for. -/
theorem requested_of_asks {t : Task} (h : (c.work t).Asks r) : c.Requested t r := by
  cases t with
  | node n =>
    cases n with
    | seq items =>
      rw [eq_of_asks_call h]
      exact .sequence items
    | map fields =>
      rw [eq_of_asks_call h]
      exact .shape fields
    | _ => cases h
  | shape fields =>
    obtain ⟨field, hm, h⟩ := asks_mapM (asks_map h)
    rw [eq_of_asks_call (asks_map h)]
    exact .field hm
  | sequence items =>
    rw [work] at h
    split at h
    · rename_i hinv
      rw [eq_of_asks_call h]
      exact .chain hinv
    · obtain ⟨n, hm, h⟩ := asks_mapM (asks_map h)
      rw [eq_of_asks_call h]
      exact .item hm
  | chain items =>
    cases items with
    | nil => cases h
    | cons head rest =>
      cases head with
      | seq first =>
        rcases asks_bind h with h | ⟨acc, h⟩
        · rw [eq_of_asks_call h]
          exact .first first rest
        · exact requested_of_asks_followed h (List.Subset.refl rest)
      | _ =>
        rw [eq_of_asks_call h]
        exact .invocation rfl
  | invocation items receiver =>
    cases items with
    | nil => cases h
    | cons head rest =>
      cases head with
      | seq first =>
        rw [eq_of_asks_call h]
        exact .nested first rest receiver
      | _ => exact requested_of_asks_invocation (by simp) h
  | arguments raw =>
    rw [eq_of_asks_call (asks_map h)]
    exact .passed raw

end Compiler

end Schemata
