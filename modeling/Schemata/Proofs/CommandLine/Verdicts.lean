import Schemata.Proofs.CommandLine.Effects
import Schemata.Proofs.CommandLine.Report
import Schemata.Proofs.Compiler.WellFormed
import Schemata.Proofs.Schema.Tips

/-!
# What the program reports about documents

With a log that does not go to the output, a check prints one verdict for each document, in the order of the command line: that it is
in order, or that it is invalid, with a line for each tip of what is wrong. It ends with 0 if every document is accepted and with 1 if
not; at a document that cannot be read it stops, with the verdicts before it printed (`run_check_prints_verdicts`).
-/

namespace Schemata.CommandLine

/-- The documents at some paths, one after another, when those at others have been read, if there is one at each. -/
def World.documentsAfter (w : World) (earlier : List String) : List String → Option (List Json)
  | [] => some []
  | path :: rest => do
    let v ← w.documentAt earlier path
    let vs ← w.documentsAfter (earlier ++ [path]) rest
    return v :: vs

/-- What a check prints about a document: that it is in order, or that it is invalid and then a line for each tip of what is wrong. -/
def verdict (s : Schema) (document : String) (v : Json) : String :=
  match s.check (some v) with
  | none => document ++ ": ok\n"
  | some e =>
    document ++ ": invalid\n"
      ++ String.join (e.tips.map fun tip =>
        "  " ++ tip.field.getD "<root>" ++ ": " ++ tip.message ++ " (" ++ tip.code ++ ")\n")

open Session

variable {w : World} {journal : Journal} {k : Console} {s : Schema} {earlier : List String} {path : String} {v : Json}

/-! ## Documents -/

/-- A check of a document prints its verdict and tells whether the document is accepted. -/
theorem does_checkDocument (quiet : journal.options.writer ≠ .stdout) (hk : k.input = w.inputAfter earlier)
    (h : w.documentAt earlier path = some v) :
    (checkDocument w journal s path).Does k (.ok (s.isValid (some v))) (verdict s path v) (w.inputAfter (earlier ++ [path])) := by
  unfold checkDocument
  refine (does_readDocument hk h).bind_quiet fun read hread => ?_
  unfold verdict Schema.isValid
  cases s.check (some v) with
  | none =>
    have hline : path ++ ": ok" ++ "\n" = path ++ ": ok\n" := String.append_assoc
    rw [← hline]
    exact (does_say (path ++ ": ok") hread).bind_pure fun _ => true
  | some e =>
    have hline : path ++ ": invalid" ++ "\n" = path ++ ": invalid\n" := String.append_assoc
    have hlines : (reported e).map (fun leaf => reportLine leaf ++ "\n") =
        e.tips.map fun tip => "  " ++ tip.field.getD "<root>" ++ ": " ++ tip.message ++ " (" ++ tip.code ++ ")\n" := by
      have htips : reported e = e.tips := e.leaves_eq_tips
      rw [htips]
      exact List.map_congr_left fun tip _ => String.append_assoc
    simp only
    rw [← hline, ← hlines]
    refine (does_say (path ++ ": invalid") hread).bind fun k' hk' => ?_
    refine (does_note quiet _ hk').bind_quiet fun k' hk' => ?_
    exact (does_forIn_say reportLine (reported e) hk').bind_pure fun _ => false

/-- Where there is no document, a check of it fails and prints nothing. -/
theorem checkDocument_fails (journal : Journal) (s : Schema) (hk : k.input = w.inputAfter earlier)
    (h : w.documentAt earlier path = none) :
    (checkDocument w journal s path).Fails k "" :=
  (readDocument_fails hk h).bind _

/-- Documents are checked one after another, and the verdicts are printed in their order. -/
theorem does_checkDocuments (quiet : journal.options.writer ≠ .stdout) {documents : List String} {vs : List Json}
    (hk : k.input = w.inputAfter earlier) (h : w.documentsAfter earlier documents = some vs) :
    (documents.mapM (checkDocument w journal s)).Does k (.ok (vs.map fun v => s.isValid (some v)))
      (String.join (List.zipWith (verdict s) documents vs)) (w.inputAfter (earlier ++ documents)) := by
  induction documents generalizing earlier k vs with
  | nil =>
    cases h
    rw [List.append_nil]
    exact .pure [] hk
  | cons path rest ih =>
    obtain ⟨v, hv, h⟩ := Option.bind_eq_some_iff.mp h
    obtain ⟨more, hmore, h⟩ := Option.bind_eq_some_iff.mp h
    cases h
    rw [List.mapM_cons, List.zipWith_cons_cons, String.join_cons, List.append_cons]
    refine (does_checkDocument quiet hk hv).bind fun k' hk' => ?_
    exact (ih hk' hmore).bind_pure fun verdicts => s.isValid (some v) :: verdicts

/-- A check stops at the first document that cannot be read, with the verdicts before it printed. -/
theorem checkDocuments_fails (quiet : journal.options.writer ≠ .stdout) {before after : List String} {document : String}
    {vs : List Json} (hk : k.input = w.inputAfter earlier) (hbefore : w.documentsAfter earlier before = some vs)
    (h : w.documentAt (earlier ++ before) document = none) :
    ((before ++ document :: after).mapM (checkDocument w journal s)).Fails k (String.join (List.zipWith (verdict s) before vs)) := by
  have hfails : ∀ k' : Console, k'.input = w.inputAfter (earlier ++ before) →
      ((document :: after).mapM (checkDocument w journal s)).Fails k' "" := by
    intro k' hk'
    rw [List.mapM_cons]
    exact (checkDocument_fails journal s hk' h).bind _
  rw [List.mapM_append, ← String.append_empty (s := String.join _)]
  exact (does_checkDocuments quiet hk hbefore).bind_fails fun k' hk' => (hfails k' hk').bind _

/-! ## The command -/

/-- The schema that a description compiles to, where it does. -/
theorem does_readSchema (quiet : journal.options.writer ≠ .stdout) {c : Compiler} {n : Node} (hk : k.input = w.inputAfter earlier)
    (described : w.documentAt earlier path = some v) (decoded : Node.decode v = .ok n)
    (compiled : (c.transform n).result = .ok (.schema s)) :
    (readSchema w journal c path).Does k (.ok (.schema s)) "" (w.inputAfter (earlier ++ [path])) := by
  unfold readSchema
  refine (does_readDocument hk described).bind_quiet fun k' hk' => ?_
  rw [decoded]
  refine (Does.pure n hk').bind_quiet fun k' hk' => ?_
  refine (does_note quiet _ hk').bind_quiet fun k' hk' => ?_
  refine (does_forIn_note quiet eventRecord _ hk').bind_quiet fun k' hk' => ?_
  rw [compiled]
  exact .pure _ hk'

section

variable (quiet : journal.options.writer ≠ .stdout) {c : Compiler} {n : Node} {vs : List Json}
  (hk : k.input = w.input) (described : w.documentAt [] path = some v) (decoded : Node.decode v = .ok n)
  (compiled : (c.transform n).result = .ok (.schema s))

include quiet hk described decoded compiled

/-- A check of documents that can all be read prints their verdicts; its code tells whether all are accepted. -/
theorem does_checkCommand {documents : List String} (readable : w.documentsAfter [path] documents = some vs) :
    (checkCommand w journal c path documents).Does k (.ok (if ∀ v ∈ vs, s.isValid (some v) = true then 0 else 1))
      (String.join (List.zipWith (verdict s) documents vs)) (w.inputAfter (path :: documents)) := by
  unfold checkCommand
  refine (does_readSchema quiet hk described decoded compiled).bind_quiet fun k' hk' => ?_
  have hcode : (vs.map fun v => s.isValid (some v)).count false = 0 ↔ ∀ v ∈ vs, s.isValid (some v) = true := by
    simp [List.count_eq_zero]
  simp only [← hcode]
  rw [← String.append_empty (s := String.join _)]
  refine (does_checkDocuments quiet hk' readable).bind fun read hread => ?_
  exact (does_note quiet _ hread).bind_pure fun _ => _

/-- A check stops at the first document that cannot be read. -/
theorem checkCommand_fails {before after : List String} {document : String} (readable : w.documentsAfter [path] before = some vs)
    (unreadable : w.documentAt (path :: before) document = none) :
    (checkCommand w journal c path (before ++ document :: after)).Fails k (String.join (List.zipWith (verdict s) before vs)) := by
  unfold checkCommand
  rw [← String.empty_append (s := String.join _)]
  refine (does_readSchema quiet hk described decoded compiled).bind_fails fun k' hk' => ?_
  exact (checkDocuments_fails quiet hk' readable unreadable).bind _

end

/-! ## The program -/

/-- What a session works with: its log and its compiler, as the host, the configuration, the environment and the flags make them. -/
def Flags.Gives (host : Log.Host) (w : World) (flags : Flags) (journal : Journal) (c : Compiler) : Prop :=
  ∃ config settings, configOf w flags = .ok config ∧
    Settings.load host (config.bind Prod.snd) w.environment flags.marker flags.logLevel = .ok settings ∧
    Log.Filter.read? settings.log.level = some journal.filter ∧ journal.options = settings.log ∧
    settings.compiler.build .empty flags.diagnostics = .ok c

variable {host : Log.Host}

/-- A request is carried out by its command, with the output and the input as they were. -/
theorem runOn_perform {flags : Flags} {c : Compiler} (gives : flags.Gives host w journal c) (quiet : journal.options.writer ≠ .stdout)
    (schema : String) (documents : List String) (k : Console) :
    ∃ k', k'.out = k.out ∧ k'.input = k.input ∧
      ((Request.mk flags (.check schema documents)).perform host w).runOn k = (checkCommand w journal c schema documents).runOn k' := by
  obtain ⟨config, settings, hconfig, hsettings, hfilter, hoptions, hcompiler⟩ := gives
  obtain ⟨options, filter⟩ := journal
  subst hoptions
  unfold Request.perform
  simp only [hconfig, hsettings, hfilter, hcompiler, Except.mapError, Option.elim, settle, pure_bind]
  obtain ⟨k₁, hout₁, hinput₁, hrun₁⟩ := runOn_note_bind quiet _ _ k
  rw [hrun₁]
  cases config with
  | none =>
    obtain ⟨k₂, hout₂, hinput₂, hrun₂⟩ := runOn_note_bind quiet _ _ k₁
    exact ⟨k₂, hout₂.trans hout₁, hinput₂.trans hinput₁, hrun₂⟩
  | some found =>
    obtain ⟨k₂, hout₂, hinput₂, hrun₂⟩ := runOn_note_bind quiet _ _ k₁
    obtain ⟨k₃, hout₃, hinput₃, hrun₃⟩ := runOn_note_bind quiet _ _ k₂
    exact ⟨k₃, (hout₃.trans hout₂).trans hout₁, (hinput₃.trans hinput₂).trans hinput₁, hrun₂.trans hrun₃⟩

/-- The compiler of a session has no custom builders. -/
theorem Flags.Gives.registry_eq {flags : Flags} {c : Compiler} (gives : flags.Gives host w journal c) : c.registry = Registry.empty := by
  obtain ⟨config, settings, -, -, -, -, hcompiler⟩ := gives
  unfold CompilerOptions.build at hcompiler
  split at hcompiler
  · cases hcompiler
  · cases hcompiler
    rfl

/-- Carrying out the words of a request is carrying out the request on a blank console. -/
theorem run_eq {words : List String} {r : Request} (request : Request.read? words = some r) :
    run w words host =
      match (r.perform host w).runOn ⟨"", "", w.input⟩ with
      | (.ok code, console) => ⟨code, console.out, console.err, none⟩
      | (.error e, console) => ⟨1, console.out, console.err, some e⟩ := by
  unfold run
  rw [request]
  rfl

section

variable {words documents : List String} {flags : Flags} {c : Compiler}
  (request : Request.read? words = some ⟨flags, .check path documents⟩) (gives : flags.Gives host w journal c)
  (quiet : journal.options.writer ≠ .stdout)

include request gives quiet

/-- A session ends with the code and the output of its command. -/
theorem run_of_does {code : Nat} {written : String} {left : Option String}
    (h : ∀ k : Console, k.input = w.input → (checkCommand w journal c path documents).Does k (.ok code) written left) :
    (run w words host).out = written ∧ (run w words host).code = code ∧ (run w words host).failure = none := by
  obtain ⟨k, hout, hinput, hperform⟩ := runOn_perform gives quiet path documents ⟨"", "", w.input⟩
  obtain ⟨err, hrun⟩ := h k hinput
  rw [hout, String.empty_append] at hrun
  rw [run_eq request, hperform, hrun]
  exact ⟨rfl, rfl, rfl⟩

/-- A command that fails ends the session with 1, and what it has printed stays. -/
theorem run_of_fails {written : String}
    (h : ∀ k : Console, k.input = w.input → (checkCommand w journal c path documents).Fails k written) :
    (run w words host).out = written ∧ (run w words host).code = 1 ∧ (run w words host).failure.isSome = true := by
  obtain ⟨k, hout, hinput, hperform⟩ := runOn_perform gives quiet path documents ⟨"", "", w.input⟩
  obtain ⟨e, left, err, hrun⟩ := h k hinput
  rw [hout, String.empty_append] at hrun
  rw [run_eq request, hperform, hrun]
  exact ⟨rfl, rfl, rfl⟩

/-- A check of documents against a description that compiles to a schema reports faithfully. Where all documents can be read, it
prints their verdicts in the order of the command line, and ends with 0 if all of them are accepted and with 1 if not. Where one is
the first that cannot be read, it prints the verdicts of those before it and fails with 1. The verdict on a document that is not
accepted has a line at least, each for something with nothing below it, and none for an object or an array whose parts are wrong. -/
theorem run_check_prints_verdicts {n : Node} (described : w.documentAt [] path = some v) (decoded : Node.decode v = .ok n)
    (compiled : (c.transform n).result = .ok (.schema s)) :
    (∀ vs, w.documentsAfter [path] documents = some vs →
      (run w words host).out = String.join (List.zipWith (verdict s) documents vs) ∧
        (run w words host).code = (if ∀ v ∈ vs, s.isValid (some v) = true then 0 else 1) ∧ (run w words host).failure = none) ∧
      (∀ before document after vs, documents = before ++ document :: after → w.documentsAfter [path] before = some vs →
        w.documentAt (path :: before) document = none →
        (run w words host).out = String.join (List.zipWith (verdict s) before vs) ∧
          (run w words host).code = 1 ∧ (run w words host).failure.isSome = true) ∧
      ∀ v e, s.check (some v) = some e →
        e.tips ≠ [] ∧ ∀ tip ∈ e.tips, tip.nested = [] ∧ tip.code ∉ Violation.aggregateCodes := by
  refine ⟨fun vs readable => ?_, fun before document after vs heq readable unreadable => ?_, fun v e hcheck => ?_⟩
  · exact run_of_does request gives quiet fun k hk => does_checkCommand quiet hk described decoded compiled readable
  · subst heq
    exact run_of_fails request gives quiet fun k hk =>
      checkCommand_fails quiet hk described decoded compiled readable unreadable
  · have hcompiled : (c.compile (c.standsFor n)).result = .ok (.schema s) := (c.transform_eq_ok_iff n _).mp compiled
    have hterm : (Term.schema s).WellFormed :=
      ((Compiler.invariant_wellFormed gives.registry_eq).all_meet.1 _).1 _ hcompiled
    cases hterm with
    | schema hs =>
      exact ⟨e.tips_ne_nil, fun tip htip => ⟨Violation.nested_of_mem_tips htip, hs.code_not_mem_of_mem_tips hcheck htip⟩⟩

end

namespace VerdictsWitness

open Compiler.SmallCase (compiler)
open ReportWitness (address read?_address read?_entry)

/-- The description of addresses and a document that is no address, with an address on standard input. -/
def world : World where
  entry := ReportWitness.world.entry
  input := some "\"a@b.co\""
  environment := ⟨[]⟩

/-- A marker, and a log of errors only. -/
def flags : Flags := ⟨none, some "do.", some "", false⟩

/-- The log of these flags. -/
def errors : Journal := ⟨{ Log.Options.default with level := "" }, ⟨[⟨none, none, [], Log.Level.error.rank⟩]⟩⟩

/-- The words of a check of some documents with these flags. -/
def words (documents : List String) : List String :=
  ["--marker", "do.", "--log-level", "", "check", "-s", "address.json"] ++ documents

/-- The description, as it is read. -/
def description : Json := .arr [.arr [.str "do.string"], .arr [.str "do.email", .str "no address"]]

/-- The node that it writes. -/
def described : Node := .seq [.seq [.str "do.string"], .seq [.str "do.email", .str "no address"]]

theorem gives : flags.Gives {} world errors compiler :=
  ⟨none, ⟨⟨"do."⟩, errors.options⟩, rfl, rfl, rfl, rfl, rfl⟩

theorem documentAt_address : world.documentAt [] "address.json" = some description :=
  read?_address

/-- Standard input is read once. -/
theorem documentsAfter_address :
    world.documentsAfter ["address.json"] ["-", "entry.json"] = some [.str "a@b.co", .str "x"] ∧
      world.documentAt ["address.json", "-", "entry.json"] "-" = none := by
  have hinput : Json.read? "\"a@b.co\"" = some (.str "a@b.co") := by
    refine Json.read?_of_reads ?_ (Json.reads_text _ _ _)
    with_unfolding_all rfl
  have hfirst : world.documentAt ["address.json"] "-" = some (.str "a@b.co") := hinput
  have hsecond : world.documentAt ["address.json", "-"] "entry.json" = some (.str "x") := read?_entry
  refine ⟨?_, ?_⟩
  · simp only [World.documentsAfter, List.cons_append, List.nil_append, hfirst, hsecond]
    rfl
  · refine Json.read?_of_tokens_eq_nil ?_
    with_unfolding_all rfl

/-- What is printed about the first two documents. -/
def printed : String := "-: ok\nentry.json: invalid\n  <root>: Invalid format (invalid_format)\n"

theorem run_check_prints_addresses :
    (Request.read? (words ["-", "entry.json"]) = some ⟨flags, .check "address.json" ["-", "entry.json"]⟩ ∧
      Request.read? (words ["-", "entry.json", "-", "entry.json"]) =
        some ⟨flags, .check "address.json" ["-", "entry.json", "-", "entry.json"]⟩ ∧
      flags.Gives {} world errors compiler ∧ errors.options.writer ≠ .stdout ∧
      world.documentAt [] "address.json" = some description ∧ Node.decode description = .ok described ∧
      (compiler.transform described).result = .ok (.schema address)) ∧
    ((run world (words ["-", "entry.json"])).out = printed ∧ (run world (words ["-", "entry.json"])).code = 1 ∧
      (run world (words ["-", "entry.json"])).failure = none) ∧
    (run world (words ["-", "entry.json", "-", "entry.json"])).out = printed ∧
      (run world (words ["-", "entry.json", "-", "entry.json"])).code = 1 ∧
      (run world (words ["-", "entry.json", "-", "entry.json"])).failure.isSome = true := by
  have hrequest : Request.read? (words ["-", "entry.json"]) = some ⟨flags, .check "address.json" ["-", "entry.json"]⟩ := by
    with_unfolding_all rfl
  have hlonger : Request.read? (words ["-", "entry.json", "-", "entry.json"]) =
      some ⟨flags, .check "address.json" ["-", "entry.json", "-", "entry.json"]⟩ := by
    with_unfolding_all rfl
  have hquiet : errors.options.writer ≠ .stdout := by decide
  have hcompiled : (compiler.transform described).result = .ok (.schema address) := rfl
  have hall := (run_check_prints_verdicts hrequest gives hquiet documentAt_address rfl hcompiled).1 _ documentsAfter_address.1
  have hfirst := (run_check_prints_verdicts hlonger gives hquiet documentAt_address rfl hcompiled).2.1
    ["-", "entry.json"] "-" ["entry.json"] _ rfl documentsAfter_address.1 documentsAfter_address.2
  exact ⟨⟨hrequest, hlonger, gives, hquiet, documentAt_address, rfl, hcompiled⟩, hall, hfirst⟩

end VerdictsWitness

end Schemata.CommandLine
