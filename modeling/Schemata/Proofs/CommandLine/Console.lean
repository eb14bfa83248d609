import Schemata.CommandLine.Session

/-!
# What a session writes

A part of a session only adds to what has been written (`Session.Appends`): saying a line does, and so does all that is put together
of parts that do. Carrying on with a list of documents carries on with those after one where that one has left off
(`Session.runOn_mapM_append`).
-/

namespace Schemata.CommandLine

/-- What a record adds to the output: a line, if the log goes there and lets the record through. -/
def Journal.printed (journal : Journal) (r : Log.Record) : String :=
  if r.passes journal.filter = true ∧ journal.options.writer = .stdout then r.line journal.options ++ "\n" else ""

namespace Session

variable {α β : Type}

/-- What a part of a session gives on a console, and the console after it. -/
def runOn (m : Session α) (k : Console) : Except Failure α × Console :=
  m.run.run k

@[simp] theorem runOn_pure (a : α) (k : Console) : (pure a : Session α).runOn k = (.ok a, k) := rfl

/-- What follows goes on where the part before it has left off, unless that has failed. -/
theorem runOn_bind (m : Session α) (f : α → Session β) (k : Console) :
    (m >>= f).runOn k =
      match m.runOn k with
      | (.ok a, after) => (f a).runOn after
      | (.error e, after) => (.error e, after) := by
  have h : (m >>= f).runOn k = (ExceptT.bindCont f (m.runOn k).1).run (m.runOn k).2 := rfl
  rw [h]
  rcases m.runOn k with ⟨_ | _, after⟩ <;> rfl

/-- What follows goes on where the part before it has left off. -/
theorem runOn_bind_of_ok {m : Session α} {k after : Console} {a : α} (h : m.runOn k = (.ok a, after)) (f : α → Session β) :
    (m >>= f).runOn k = (f a).runOn after := by
  rw [runOn_bind, h]

/-! ## Adding to what has been written -/

/-- A part of a session takes back nothing of what has been written. -/
def Appends (m : Session α) : Prop :=
  ∀ k, ∃ written, (m.runOn k).2.out = k.out ++ written

namespace Appends

theorem pure (a : α) : Appends (Pure.pure a) :=
  fun _ => ⟨"", (String.append_empty).symm⟩

/-- What follows adds to what the part before it has added. -/
theorem bind {m : Session α} {f : α → Session β} (hm : Appends m) (hf : ∀ a, Appends (f a)) : Appends (m >>= f) := by
  intro k
  obtain ⟨written, hw⟩ := hm k
  rw [runOn_bind]
  cases hrun : m.runOn k with
  | mk result after =>
    rw [hrun] at hw
    cases result with
    | error e => exact ⟨written, hw⟩
    | ok a =>
      obtain ⟨more, hmore⟩ := hf a after
      exact ⟨written ++ more, by rw [hmore, hw, String.append_assoc]⟩

/-- So do the parts for the entries of a list, one after another. -/
theorem mapM {f : α → Session β} (hf : ∀ a, Appends (f a)) (l : List α) : Appends (l.mapM f) := by
  induction l with
  | nil => exact pure []
  | cons a rest ih =>
    rw [List.mapM_cons]
    exact (hf a).bind fun b => ih.bind fun bs => pure (b :: bs)

/-- So does a loop over a list that does something for each entry. -/
theorem forIn {f : α → Session Unit} (hf : ∀ a, Appends (f a)) (l : List α) :
    Appends (ForIn.forIn l () fun a _ => do f a; Pure.pure (ForInStep.yield ())) := by
  induction l with
  | nil => exact pure ()
  | cons a rest ih =>
    rw [List.forIn_cons]
    exact ((hf a).bind fun _ => pure _).bind fun | .done b => pure b | .yield _ => ih

end Appends

/-- Where a list of parts has been carried out up to one of them, and that one too, the parts after it come next. -/
theorem runOn_mapM_append {f : α → Session β} {before : List α} {a : α} {k reached next : Console} {bs : List β} {b : β}
    (hbefore : (before.mapM f).runOn k = (.ok bs, reached)) (ha : (f a).runOn reached = (.ok b, next)) (rest : List α) :
    ((before ++ a :: rest).mapM f).runOn k = (rest.mapM f >>= fun more => pure (bs ++ b :: more)).runOn next := by
  rw [List.mapM_append, runOn_bind_of_ok hbefore, List.mapM_cons, bind_assoc, runOn_bind_of_ok ha, bind_assoc]
  simp only [pure_bind]

/-! ## Lines and records -/

@[simp] theorem runOn_say (line : String) (k : Console) :
    (say line).runOn k = (.ok (), { k with out := k.out ++ line ++ "\n" }) := rfl

theorem appends_say (line : String) : Appends (say line) :=
  fun k => ⟨line ++ "\n", by rw [runOn_say, String.append_assoc]⟩

/-- Saying lines one after another. -/
theorem runOn_forIn_say (line : α → String) (l : List α) (k : Console) :
    (ForIn.forIn l () fun a _ => do say (line a); Pure.pure (ForInStep.yield ())).runOn k =
      (.ok (), { k with out := k.out ++ String.join (l.map fun a => line a ++ "\n") }) := by
  induction l generalizing k with
  | nil => simp [String.join]
  | cons a rest ih =>
    rw [List.forIn_cons, bind_assoc, runOn_bind_of_ok (runOn_say (line a) k), pure_bind, ih]
    simp [String.append_assoc]

/-- Putting a record into the log adds to the output what is printed of it. -/
theorem runOn_note (journal : Journal) (r : Log.Record) (k : Console) :
    ∃ after, (note journal r).runOn k = (.ok (), after) ∧ after.out = k.out ++ journal.printed r := by
  unfold note Journal.printed
  by_cases hpass : r.passes journal.filter = true
  · rw [if_pos hpass]
    cases hwriter : journal.options.writer with
    | stdout => exact ⟨_, rfl, by simp [hpass]⟩
    | stderr => exact ⟨_, rfl, by simp⟩
  · rw [if_neg hpass]
    exact ⟨k, rfl, by simp [hpass]⟩

theorem appends_note (journal : Journal) (r : Log.Record) : Appends (note journal r) := by
  intro k
  obtain ⟨after, hrun, hout⟩ := runOn_note journal r k
  rw [hrun]
  exact ⟨_, hout⟩

/-! ## Reading and checking documents -/

/-- Standard input is read to its end, or it cannot be read. -/
theorem runOn_takeInput (k : Console) :
    takeInput.runOn k =
      match k.input with
      | some text => (.ok text, { k with input := some "" })
      | none => (.error .unreadableInput, k) := by
  have hget : (get : Session Console).runOn k = (.ok k, k) := rfl
  rw [takeInput, runOn_bind_of_ok hget]
  cases k.input <;> rfl

end Session

open Session

/-- Reading a document writes nothing. -/
theorem out_readDocument (w : World) (path : String) (k : Console) : ((readDocument w path).runOn k).2.out = k.out := by
  unfold readDocument
  dsimp only
  split
  · rw [runOn_bind, runOn_takeInput]
    cases k.input with
    | none => rfl
    | some text =>
      dsimp only
      cases Json.read? text <;> rfl
  · cases w.entry path with
    | file text =>
      cases text with
      | none => rfl
      | some text =>
        simp only [pure_bind]
        cases Json.read? text <;> rfl
    | _ => rfl

/-- The document of a file that has one. -/
theorem runOn_readDocument_of_file {w : World} {path text : String} {v : Json} (hpath : isInputPath path = false)
    (hentry : w.entry path = .file (some text)) (hv : Json.read? text = some v) (k : Console) :
    (readDocument w path).runOn k = (.ok v, k) := by
  unfold readDocument
  simp only [hpath, Bool.false_eq_true, if_false, hentry, pure_bind, hv]
  rfl

theorem appends_checkDocument (w : World) (journal : Journal) (s : Schema) (path : String) :
    Appends (checkDocument w journal s path) := by
  unfold checkDocument
  refine Appends.bind (fun k => ⟨"", by rw [out_readDocument, String.append_empty]⟩) fun v => ?_
  split
  · exact (appends_say _).bind fun _ => .pure true
  · exact (appends_say _).bind fun _ => (appends_note _ _).bind fun _ =>
      (Appends.forIn (fun leaf => appends_say (reportLine leaf)) _).bind fun _ => .pure false

end Schemata.CommandLine
