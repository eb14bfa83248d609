import Schemata.Proofs.CommandLine.Console

/-!
# What a session does

What a part of a session does is told by what it gives, what it adds to the output and what it leaves of the input
(`Session.Does`); parts that follow one another add to the output one after another. A log that does not go to the output adds nothing
(`Session.does_note`). Reading a document gives what the world has at its path, where standard input is there only once
(`does_readDocument`).
-/

namespace Schemata.CommandLine

/-! ## What parts of a session do -/

namespace Session

variable {α β : Type} {m : Session α} {f : α → Session β} {k : Console}

/-- What a part of a session gives on a console, what it adds to the output, and what it leaves of the input. -/
def Does (m : Session α) (k : Console) (result : Except Failure α) (written : String) (left : Option String) : Prop :=
  ∃ err, m.runOn k = (result, ⟨k.out ++ written, err, left⟩)

namespace Does

variable {a : α} {b : β} {result : Except Failure β} {written more : String} {left left' : Option String}

theorem pure (a : α) (hk : k.input = left) : (Pure.pure a : Session α).Does k (.ok a) "" left :=
  ⟨k.err, by rw [runOn_pure, String.append_empty, ← hk]⟩

/-- What follows adds to what the part before it has added, and goes on with the input that it has left. -/
theorem bind (hm : m.Does k (.ok a) written left) (hf : ∀ k', k'.input = left → (f a).Does k' result more left') :
    (m >>= f).Does k result (written ++ more) left' := by
  obtain ⟨err, hrun⟩ := hm
  obtain ⟨err', hrun'⟩ := hf ⟨k.out ++ written, err, left⟩ rfl
  exact ⟨err', by rw [runOn_bind_of_ok hrun, hrun', String.append_assoc]⟩

/-- What follows a part that writes nothing is all that is written. -/
theorem bind_quiet (hm : m.Does k (.ok a) "" left) (hf : ∀ k', k'.input = left → (f a).Does k' result written left') :
    (m >>= f).Does k result written left' := by
  have h := hm.bind hf
  rwa [String.empty_append] at h

/-- A value at the end writes nothing. -/
theorem bind_pure (hm : m.Does k (.ok a) written left) (g : α → β) :
    (m >>= fun a => Pure.pure (g a)).Does k (.ok (g a)) written left := by
  have h := hm.bind (f := fun a => Pure.pure (g a)) fun k' hk' => pure (g a) hk'
  rwa [String.append_empty] at h

end Does

/-- A part of a session fails on a console, and this is what it adds to the output before. -/
def Fails (m : Session α) (k : Console) (written : String) : Prop :=
  ∃ e left, m.Does k (.error e) written left

theorem throw_fails (e : Failure) (k : Console) : (throw e : Session α).Fails k "" :=
  ⟨e, k.input, k.err, by rw [String.append_empty]; rfl⟩

/-- Nothing follows a part that fails. -/
theorem Fails.bind {written : String} (hm : m.Fails k written) (f : α → Session β) : (m >>= f).Fails k written := by
  obtain ⟨e, left, err, hrun⟩ := hm
  exact ⟨e, left, err, by rw [runOn_bind, hrun]⟩

/-- A part that fails adds to what the part before it has added. -/
theorem Does.bind_fails {a : α} {written more : String} {left : Option String} (hm : m.Does k (.ok a) written left)
    (hf : ∀ k', k'.input = left → (f a).Fails k' more) : (m >>= f).Fails k (written ++ more) := by
  obtain ⟨err, hrun⟩ := hm
  obtain ⟨e, left', err', hrun'⟩ := hf ⟨k.out ++ written, err, left⟩ rfl
  exact ⟨e, left', err', by rw [runOn_bind_of_ok hrun, hrun', String.append_assoc]⟩

variable {left : Option String}

theorem does_say (line : String) (hk : k.input = left) : (say line).Does k (.ok ()) (line ++ "\n") left :=
  ⟨k.err, by rw [runOn_say, String.append_assoc, ← hk]⟩

/-- Saying lines one after another. -/
theorem does_forIn_say (line : α → String) (l : List α) (hk : k.input = left) :
    (ForIn.forIn l () fun a _ => do say (line a); Pure.pure (ForInStep.yield ())).Does k (.ok ())
      (String.join (l.map fun a => line a ++ "\n")) left :=
  ⟨k.err, by rw [runOn_forIn_say, ← hk]⟩

/-- A log that does not go to the output adds nothing to it. -/
theorem does_note {journal : Journal} (quiet : journal.options.writer ≠ .stdout) (r : Log.Record) (hk : k.input = left) :
    (note journal r).Does k (.ok ()) "" left := by
  unfold note
  split
  · cases hwriter : journal.options.writer with
    | stdout => exact (quiet hwriter).elim
    | stderr => exact ⟨_, by rw [String.append_empty, ← hk]; rfl⟩
  · exact .pure () hk

/-- What follows such a record finds the output and the input as they were. -/
theorem runOn_note_bind {journal : Journal} (quiet : journal.options.writer ≠ .stdout) (r : Log.Record) (next : Session α)
    (k : Console) :
    ∃ k', k'.out = k.out ∧ k'.input = k.input ∧ (note journal r >>= fun _ => next).runOn k = next.runOn k' := by
  obtain ⟨err, hrun⟩ := does_note quiet r (Eq.refl k.input)
  exact ⟨⟨k.out ++ "", err, k.input⟩, String.append_empty, rfl, runOn_bind_of_ok hrun _⟩

/-- A loop that puts records into such a log adds nothing either. -/
theorem does_forIn_note {journal : Journal} (quiet : journal.options.writer ≠ .stdout) (record : α → Log.Record) (l : List α)
    (hk : k.input = left) :
    (ForIn.forIn l () fun a _ => do note journal (record a); Pure.pure (ForInStep.yield ())).Does k (.ok ()) "" left := by
  induction l generalizing k with
  | nil => exact .pure () hk
  | cons a rest ih =>
    rw [List.forIn_cons, bind_assoc]
    exact (does_note quiet (record a) hk).bind_quiet fun k' hk' => by simpa only [pure_bind] using ih hk'

end Session

/-! ## What a session finds outside -/

namespace World

/-- What is left of standard input when the documents at some paths have been read. -/
def inputAfter (w : World) (earlier : List String) : Option String :=
  if earlier.any isInputPath then w.input.map fun _ => "" else w.input

/-- The text at a path when the documents at others have been read: files stay as they are, standard input is read once. -/
def textAt (w : World) (earlier : List String) (path : String) : Option String :=
  if isInputPath path then w.inputAfter earlier
  else
    match w.entry path with
    | .file text => text
    | _ => none

/-- The document at a path when those at others have been read, if there is one. -/
def documentAt (w : World) (earlier : List String) (path : String) : Option Json :=
  (w.textAt earlier path).bind Json.read?

theorem inputAfter_snoc_of_input (w : World) (earlier : List String) {path : String} (h : isInputPath path = true) :
    w.inputAfter (earlier ++ [path]) = w.input.map fun _ => "" := by
  simp [inputAfter, h]

theorem inputAfter_snoc_of_file (w : World) (earlier : List String) {path : String} (h : isInputPath path = false) :
    w.inputAfter (earlier ++ [path]) = w.inputAfter earlier := by
  simp [inputAfter, h]

end World

open Session

variable {w : World} {k : Console} {earlier : List String} {path : String} {v : Json}

/-- The text at a path. -/
def readText (w : World) (path : String) : Session String :=
  if isInputPath path then takeInput
  else
    match w.entry path with
    | .file (some text) => pure text
    | _ => throw (.unreadable path)

/-- A document is read from the text at its path. -/
theorem readDocument_eq (w : World) (path : String) :
    readDocument w path =
      readText w path >>= fun text =>
        match Json.read? text with
        | some v => pure v
        | none => throw (.notJson path) := by
  unfold readDocument readText
  split
  · rfl
  · cases w.entry path with
    | file text? => cases text? <;> rfl
    | _ => rfl

/-- The text at a path is read, and with standard input nothing is left of it. -/
theorem does_readText {text : String} (hk : k.input = w.inputAfter earlier) (h : w.textAt earlier path = some text) :
    (readText w path).Does k (.ok text) "" (w.inputAfter (earlier ++ [path])) := by
  unfold World.textAt at h
  unfold readText
  split at h
  · rename_i hpath
    have hleft : w.inputAfter (earlier ++ [path]) = some "" := by
      rw [w.inputAfter_snoc_of_input earlier hpath]
      unfold World.inputAfter at h
      split at h
      · obtain ⟨input, hinput, -⟩ := Option.map_eq_some_iff.mp h
        rw [hinput, Option.map_some]
      · rw [h, Option.map_some]
    rw [if_pos hpath, hleft]
    exact ⟨k.err, by rw [runOn_takeInput, hk, h, String.append_empty]⟩
  · rename_i hpath
    have hentry : w.entry path = .file (some text) := by
      split at h
      · rename_i hentry
        rw [hentry, h]
      · cases h
    rw [if_neg hpath, hentry, w.inputAfter_snoc_of_file earlier (Bool.eq_false_iff.mpr hpath)]
    exact .pure text hk

/-- Where there is no text, reading it fails. -/
theorem readText_fails (hk : k.input = w.inputAfter earlier) (h : w.textAt earlier path = none) : (readText w path).Fails k "" := by
  unfold World.textAt at h
  unfold readText
  split at h
  · rename_i hpath
    have hrun : takeInput.runOn k = (.error .unreadableInput, k) := by rw [runOn_takeInput, hk, h]
    rw [if_pos hpath]
    exact ⟨.unreadableInput, k.input, k.err, by rw [hrun, String.append_empty]⟩
  · rename_i hpath
    rw [if_neg hpath]
    split
    · rename_i text hentry
      rw [hentry] at h
      cases h
    · exact throw_fails _ k

/-- The document at a path is read, and with standard input nothing is left of it. -/
theorem does_readDocument (hk : k.input = w.inputAfter earlier) (h : w.documentAt earlier path = some v) :
    (readDocument w path).Does k (.ok v) "" (w.inputAfter (earlier ++ [path])) := by
  obtain ⟨text, htext, hv⟩ := Option.bind_eq_some_iff.mp h
  rw [readDocument_eq]
  refine (does_readText hk htext).bind_quiet fun k' hk' => ?_
  rw [hv]
  exact .pure v hk'

/-- Where there is no document, reading it fails. -/
theorem readDocument_fails (hk : k.input = w.inputAfter earlier) (h : w.documentAt earlier path = none) :
    (readDocument w path).Fails k "" := by
  rw [readDocument_eq]
  cases htext : w.textAt earlier path with
  | none => exact (readText_fails hk htext).bind _
  | some text =>
    have hv : Json.read? text = none := by rwa [World.documentAt, htext] at h
    rw [← String.append_empty (s := "")]
    refine (does_readText hk htext).bind_fails fun k' hk' => ?_
    rw [hv]
    exact throw_fails _ k'

end Schemata.CommandLine
