import Schemata.Proofs.Compiler.Results

/-!
# The procedures of a compiler

Compiling takes turns between six procedures that call each other: for a node, for the fields of a shape, for a sequence, for a chain,
for an invocation, and for the arguments of an invocation. Two of them hand the list they were given on to each other unchanged: a
chain that no sequence heads is an invocation, and an invocation that a sequence heads is a chain. `work` is what each procedure does
by itself, up to its calls; the compiler answers every call as the work of its procedure comes to (`answered_work`).
-/

namespace Schemata.Compiler

/-! ## Work -/

/-- One of the procedures that compiling takes. -/
inductive Procedure where
  | node
  | shape
  | sequence
  | chain
  | invocation
  | arguments
deriving DecidableEq

/-- A call of a procedure, with what it is given. -/
inductive Task where
  | node (n : Node)
  | shape (fields : List (String × Node))
  | sequence (items : List Node)
  | chain (items : List Node)
  | invocation (items : List Node) (receiver : Option Term)
  | arguments (raw : List Node)

namespace Task

/-- The procedure that is called. -/
def procedure : Task → Procedure
  | .node _ => .node
  | .shape _ => .shape
  | .sequence _ => .sequence
  | .chain _ => .chain
  | .invocation _ _ => .invocation
  | .arguments _ => .arguments

/-- What a call gives: the arguments of an invocation are several terms, anything else is one. -/
@[reducible] def Answer : Task → Type
  | .arguments _ => List Term
  | _ => Term

end Task

/-- The work of a procedure: it ends, or it records an event, calls a builder or calls a procedure, and goes on from there. -/
inductive Work (α : Type) where
  | ends (result : Except CompileError α)
  | records (e : Event) (next : Work α)
  | builds (b : Binding) (args : List Term) (next : Term → Work α)
  | calls (t : Task) (next : t.Answer → Work α)

namespace Work

variable {α β : Type}

/-- Go on after some work, unless it failed. -/
def andThen : Work α → (α → Work β) → Work β
  | .ends (.ok a), f => f a
  | .ends (.error e), _ => .ends (.error e)
  | .records e next, f => .records e (next.andThen f)
  | .builds b args next, f => .builds b args fun t => (next t).andThen f
  | .calls t next, f => .calls t fun a => (next a).andThen f

instance : Monad Work where
  pure a := .ends (.ok a)
  bind := andThen

/-- Going on with what is there changes nothing. -/
theorem map_id (w : Work α) : id <$> w = w := by
  induction w with
  | ends result => cases result <;> rfl
  | records e next ih => exact congrArg (records e) ih
  | builds b args next ih => exact congrArg (builds b args) (funext ih)
  | calls t next ih => exact congrArg (calls t) (funext ih)

/-- Going on in two steps is going on with the second step inside the first. -/
theorem andThen_assoc {γ : Type} (w : Work α) (f : α → Work β) (g : β → Work γ) :
    (w.andThen f).andThen g = w.andThen fun a => (f a).andThen g := by
  induction w with
  | ends result => cases result <;> rfl
  | records e next ih => exact congrArg (records e) ih
  | builds b args next ih => exact congrArg (builds b args) (funext ih)
  | calls t next ih => exact congrArg (calls t) (funext ih)

instance : LawfulMonad Work :=
  LawfulMonad.mk' Work map_id (fun _ _ => rfl) andThen_assoc

/-- Record an event if a condition holds. -/
def recordIf (condition : Bool) (e : Event) : Work Unit :=
  if condition then .records e (pure ()) else pure ()

/-- Call a builder. -/
def build (b : Binding) (args : List Term) : Work Term :=
  .builds b args pure

/-- Call a procedure. -/
def call (t : Task) : Work t.Answer :=
  .calls t pure

/-- What work comes to when every call of a procedure gives what is answered. -/
def answered (answer : (t : Task) → Traced t.Answer) : Work α → Traced α
  | .ends result => .ofExcept result
  | .records e next => do
    Traced.record e
    next.answered answer
  | .builds b args next => do
    let t ← Traced.ofExcept ((b.call args).mapError .build)
    (next t).answered answer
  | .calls t next => do
    let a ← answer t
    (next a).answered answer

end Work

/-! ## What each procedure does -/

open Work (recordIf build call)

/-- The arguments of the builder that takes a pattern: what stands in the place of the pattern is replaced by one. -/
def coerced (raw : List Node) : Except CompileError (List Node) :=
  match leadingPattern? raw with
  | some lead => lead.map fun p => .pattern p :: raw.tail
  | none => .ok raw

/-- Go on with a shape. -/
def shaped (c : Compiler) (acc : Term) : Work Term :=
  match acc with
  | .shape fields => .records (.rootCall Root.object.name 1) (build (.root .object) [.shape fields])
  | .list [.schema s, .shape fields] =>
    match Member.named? s.tag Member.shape.name with
    | none => .ends (.error (c.noShape (s.tag.name ++ " schema")))
    | some member => .records (.memberCall Member.shape.name s.tag.name 1) (build (.member member s) [.shape fields])
  | .list [receiver, .shape _] => .ends (.error (c.noShape receiver.kindName))
  | other => .ends (.error (c.noShape other.kindName))

/-- Go on with one element of a chain: a sequence is an invocation, the text that goes on with a shape does so, and anything else is
put in a list with what came before it. -/
def extended (c : Compiler) (acc : Term) : Node → Work Term
  | .seq items => call (.invocation items (some acc))
  | .str s => if s = c.shapeMarker then c.shaped acc else append acc <$> call (.node (.str s))
  | n => append acc <$> call (.node n)

/-- Go on with the elements of a chain, from a step on. -/
def followed (c : Compiler) : List Node → Nat → Term → Work Term
  | [], _, acc => pure acc
  | element :: rest, step, acc => do
    let acc ← c.extended acc element
    recordIf c.diagnostics (.step step acc.kindName)
    c.followed rest (step + 1) acc

/-- The work of a procedure. -/
def work (c : Compiler) : (t : Task) → Work t.Answer
  | .node (.seq items) => call (.sequence items)
  | .node (.map fields) => call (.shape fields)
  | .node (.pattern p) => pure (.pattern p)
  | .node scalar => pure (.literal scalar.toJson)
  | .shape fields => Term.shape <$> fields.mapM fun (key, n) => (key, ·) <$> call (.node n)
  | .sequence items =>
    if Node.isInvocation c.marker items then call (.chain items)
    else Term.list <$> items.mapM fun n => call (.node n)
  | .chain [] => pure (.list [])
  | .chain (.seq first :: rest) => do
    let acc ← call (.invocation first none)
    c.followed rest 1 acc
  | .chain items => call (.invocation items none)
  | .invocation [] _ => .ends (.error (.unresolved "[]"))
  | .invocation (.seq first :: rest) _ => call (.chain (.seq first :: rest))
  | .invocation (name :: raw) receiver => do
    let binding ← Work.ends (c.resolve name receiver)
    recordIf c.diagnostics (.resolved name.text binding.source binding.name raw.length)
    let raw ← Work.ends (if binding.takesPattern then coerced raw else .ok raw)
    let args ← call (.arguments raw)
    build binding args
  | .arguments raw => passed <$> call (.sequence raw)

/-- Anything but a sequence at the head of an invocation is a name. -/
theorem work_name (c : Compiler) {name : Node} (notSeq : ∀ items, name ≠ .seq items) (raw : List Node) (receiver : Option Term) :
    c.work (.invocation (name :: raw) receiver) = (do
      let binding ← Work.ends (c.resolve name receiver)
      recordIf c.diagnostics (.resolved name.text binding.source binding.name raw.length)
      let raw ← Work.ends (if binding.takesPattern then coerced raw else .ok raw)
      let args ← call (.arguments raw)
      build binding args) := by
  rw [work]
  exact notSeq

/-! ## What the compiler answers -/

namespace Work

variable {α β : Type} (answer : (t : Task) → Traced t.Answer)

@[simp] theorem answered_ends (result : Except CompileError α) : (ends result).answered answer = Traced.ofExcept result := rfl

@[simp] theorem answered_recordIf (condition : Bool) (e : Event) :
    (recordIf condition e).answered answer = Traced.recordIf condition e := by
  cases condition
  · rfl
  · exact bind_pure _

@[simp] theorem answered_build (b : Binding) (args : List Term) :
    (build b args).answered answer = Traced.ofExcept ((b.call args).mapError .build) :=
  bind_pure _

@[simp] theorem answered_call (t : Task) : (call t).answered answer = answer t :=
  bind_pure _

/-- What follows on some work follows on what it comes to. -/
@[simp] theorem answered_bind (w : Work α) (f : α → Work β) :
    (w >>= f).answered answer = w.answered answer >>= fun a => (f a).answered answer := by
  induction w with
  | ends result => cases result <;> rfl
  | records e next ih =>
    show (Traced.record e >>= fun _ => (next >>= f).answered answer) = (Traced.record e >>= _) >>= _
    rw [ih, bind_assoc]
  | builds b args next ih =>
    show (_ >>= fun t => (next t >>= f).answered answer) = (_ >>= _) >>= _
    rw [bind_assoc]
    exact bind_congr ih
  | calls t next ih =>
    show (answer t >>= fun a => (next a >>= f).answered answer) = (answer t >>= _) >>= _
    rw [bind_assoc]
    exact bind_congr ih

@[simp] theorem answered_map (f : α → β) (w : Work α) : (f <$> w).answered answer = f <$> w.answered answer := by
  rw [map_eq_pure_bind, map_eq_pure_bind, answered_bind]
  rfl

end Work

/-- What the compiler gives for a call. -/
def outcome (c : Compiler) : (t : Task) → Traced t.Answer
  | .node n => c.compile n
  | .shape fields => Term.shape <$> c.compileFields fields
  | .sequence items => c.compile (.seq items)
  | .chain items => if items.isEmpty then pure (.list []) else c.invoke items none
  | .invocation items receiver => c.invoke items receiver
  | .arguments raw => passed <$> c.compile (.seq raw)

variable (c : Compiler)

/-- A node is compiled, each item of a sequence after the other. -/
theorem answered_items (items : List Node) :
    (items.mapM fun n => call (.node n)).answered c.outcome = c.compileItems items := by
  induction items with
  | nil => rfl
  | cons n rest ih =>
    rw [List.mapM_cons, compileItems, Work.answered_bind, Work.answered_call]
    refine bind_congr fun t => ?_
    rw [Work.answered_bind, ih]
    rfl

/-- So are the fields of a shape. -/
theorem answered_fields (fields : List (String × Node)) :
    (fields.mapM fun (key, n) => (key, ·) <$> call (.node n) : Work (List (String × Term))).answered c.outcome =
      c.compileFields fields := by
  induction fields with
  | nil => rfl
  | cons field rest ih =>
    obtain ⟨key, n⟩ := field
    rw [List.mapM_cons, compileFields, Work.answered_bind, Work.answered_map, Work.answered_call, bind_map_left]
    refine bind_congr fun t => ?_
    rw [Work.answered_bind, ih]
    rfl

/-- A chain goes on with a shape. -/
theorem answered_shaped (acc : Term) : (c.shaped acc).answered c.outcome = c.continueWithShape acc := by
  fun_cases continueWithShape c acc with
  | case1 fields =>
    show (Traced.record _ >>= fun _ => (build _ _).answered c.outcome) = _
    rw [Work.answered_build]
    rfl
  | case2 s fields h =>
    rw [shaped]
    simp only [h]
    rfl
  | case3 s fields member h =>
    have hname : member.name = Member.shape.name := by simpa using List.find?_some h
    rw [shaped]
    simp only [h]
    show (Traced.record _ >>= fun _ => (build (.member member s) [.shape fields]).answered c.outcome) = _
    rw [Work.answered_build, Binding.call, hname]
    cases member.build s ⟨Member.shape.name, [.shape fields]⟩ <;> rfl
  | case4 receiver fields h =>
    rw [shaped]
    · rfl
    · exact h
  | case5 _ hshape hschema hlist =>
    rw [shaped]
    · rfl
    · exact hshape
    · exact hschema
    · exact hlist

/-- A chain goes on with its elements. -/
theorem answered_followed (elements : List Node) (step : Nat) (acc : Term) :
    (c.followed elements step acc).answered c.outcome = c.chain elements step acc := by
  induction elements generalizing step acc with
  | nil => rfl
  | cons n rest ih =>
    have hrest : ∀ acc : Term, ((do recordIf c.diagnostics (.step step acc.kindName)
                                    c.followed rest (step + 1) acc : Work Term)).answered c.outcome =
        (do Traced.recordIf c.diagnostics (.step step acc.kindName)
            c.chain rest (step + 1) acc) := by
      intro acc
      rw [Work.answered_bind, Work.answered_recordIf]
      exact bind_congr fun _ => ih (step + 1) acc
    rw [followed, Work.answered_bind, funext hrest]
    cases n with
    | seq items => rw [extended, Work.answered_call, chain, outcome]
    | str s =>
      rw [extended, chain]
      split
      · rw [answered_shaped]
      · rw [Work.answered_map, Work.answered_call, bind_map_left]
        rfl
    | _ =>
      show (append acc <$> call (.node _)).answered c.outcome >>= _ = _
      rw [Work.answered_map, Work.answered_call, bind_map_left]
      rfl

/-- A pattern in front of the other arguments is passed with them. -/
theorem outcome_arguments_pattern (p : Pattern) (raw : List Node) :
    c.outcome (.arguments (.pattern p :: raw.tail)) = (.pattern p :: ·) <$> c.compileRest raw := by
  have hrest : c.compileRest raw = c.compileItems raw.tail := by cases raw <;> rfl
  show passed <$> (c.compileItems (.pattern p :: raw.tail) >>= fun items => pure (.list items)) = _
  rw [hrest, compileItems, compile]
  simp only [map_eq_pure_bind, bind_assoc, pure_bind]
  rfl

/-- The work of an invocation that a name heads. -/
theorem answered_invocation {name : Node} (hname : ∀ items, name ≠ .seq items) (raw : List Node) (receiver : Option Term) :
    (c.work (.invocation (name :: raw) receiver)).answered c.outcome = c.invoke (name :: raw) receiver := by
  rw [c.invoke_name hname, c.work_name hname]
  have hcall : ∀ raw, (call (.arguments raw)).answered c.outcome = c.outcome (.arguments raw) :=
    fun raw => Work.answered_call c.outcome (.arguments raw)
  simp only [Work.answered_bind, Work.answered_ends, Work.answered_recordIf, Work.answered_build, hcall]
  refine bind_congr fun binding => bind_congr fun _ => ?_
  rw [compileArguments]
  have hraw : (if binding.takesPattern = true then coerced raw else Except.ok raw) =
      match if binding.takesPattern then leadingPattern? raw else none with
      | some lead => lead.map fun p => .pattern p :: raw.tail
      | none => .ok raw := by
    split <;> rfl
  rw [hraw]
  cases if binding.takesPattern then leadingPattern? raw else none with
  | some lead =>
    cases lead with
    | error e => rfl
    | ok p =>
      show (c.outcome (.arguments (.pattern p :: raw.tail)) >>= _) = _
      rw [outcome_arguments_pattern]
      rfl
  | none =>
    show (passed <$> c.compile (.seq raw) >>= _) = _
    rw [compile, map_eq_pure_bind]
    split <;> simp only [map_eq_pure_bind, bind_assoc, pure_bind]

/-- The compiler answers every call as the work of the procedure comes to. -/
theorem answered_work (t : Task) : (c.work t).answered c.outcome = c.outcome t := by
  cases t with
  | node n =>
    cases n with
    | seq items => exact Work.answered_call _ _
    | map fields =>
      rw [work, Work.answered_call, outcome, outcome, compile, map_eq_pure_bind]
    | _ => rfl
  | shape fields =>
    rw [work, Work.answered_map, answered_fields]
    rfl
  | sequence items =>
    rw [work, outcome, compile]
    split
    · rename_i h
      cases items with
      | nil => cases h
      | cons n rest => exact Work.answered_call _ _
    · rw [Work.answered_map, answered_items, map_eq_pure_bind]
  | chain items =>
    cases items with
    | nil => rfl
    | cons head rest =>
      cases head with
      | seq first =>
        rw [work, Work.answered_bind, Work.answered_call, outcome, outcome, List.isEmpty_cons, invoke]
        exact bind_congr fun acc => c.answered_followed rest 1 acc
      | _ => exact Work.answered_call _ _
  | invocation items receiver =>
    cases items with
    | nil => rfl
    | cons head rest =>
      cases head with
      | seq first =>
        rw [work, Work.answered_call, outcome, outcome, invoke, invoke]
        rfl
      | _ => exact c.answered_invocation (by simp) rest receiver
  | arguments raw =>
    rw [work, Work.answered_map, Work.answered_call]
    rfl

end Schemata.Compiler
