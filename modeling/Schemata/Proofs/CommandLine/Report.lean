import Schemata.Proofs.CommandLine.Console
import Schemata.Proofs.Compiler.Results
import Schemata.Proofs.Json.Reading
import Schemata.Proofs.Schema.Localisation

/-!
# What a report says

For a document that a check rejects, the report has one line for each failing place, in depth-first order, with what its first unmet
demand says (`report`). A message declared for a presence or for a set is what the line says; one declared for a rule is not, unless
the rule says the same by itself (`checkCommand_reports_failing_places`).
-/

namespace Schemata.CommandLine

open Session

/-- The line of a report about a failing place. -/
def findingLine (f : Finding) : String :=
  "  " ++ (fieldAt f.path).getD "<root>" ++ ": " ++ f.said ++ " (" ++ f.demand.code ++ ")"

/-- The record of a rejection, with the number of failing places. -/
def rejection (document : String) (failing : Nat) : Log.Record :=
  ⟨.debug, "stencil::commands", "document rejected", [("document", .str document), ("errors", countField failing)]⟩

/-- What a check prints about a document that it rejects: that it does, and a line for each failing place. -/
def report (journal : Journal) (document : String) (findings : List Finding) : String :=
  document ++ ": invalid\n" ++ journal.printed (rejection document findings.length)
    ++ String.join (findings.map fun f => findingLine f ++ "\n")

/-- The lines about the leaves of a check are those about the failing places. -/
theorem map_reportLine_reported {s : Schema} {v : Json} {e : Violation} (h : s.check (some v) = some e) :
    (reported e).map reportLine = (Place.mk s (some v) none).findings.map findingLine := by
  have hnotices := (Place.mk s (some v) none).notices_eq_findings
  have hv : (Place.mk s (some v) none).violation? = some e := h
  rw [hv, Option.toList_some, List.flatMap_singleton] at hnotices
  -- A line is written from the notice of a leaf: its path, its message and its code.
  have hlines := congrArg (List.map fun notice : Option String × String × String =>
    "  " ++ notice.1.getD "<root>" ++ ": " ++ notice.2.1 ++ " (" ++ notice.2.2 ++ ")") hnotices
  rw [Violation.notices, List.map_map, List.map_map] at hlines
  exact hlines

section

variable {w : World} {journal : Journal} {s : Schema} {document : String} {k read : Console} {v : Json}

/-- A document that is accepted is said to be in order. -/
theorem checkDocument_of_accepted (hread : (readDocument w document).runOn k = (.ok v, read)) (hcheck : s.check (some v) = none) :
    (checkDocument w journal s document).runOn k = (.ok true, { read with out := read.out ++ (document ++ ": ok") ++ "\n" }) := by
  unfold checkDocument
  rw [runOn_bind_of_ok hread]
  simp only [hcheck]
  rw [runOn_bind_of_ok (runOn_say _ _)]
  rfl

/-- Of a document that is not accepted the report is printed. -/
theorem checkDocument_of_refused (journal : Journal) {e : Violation} (hread : (readDocument w document).runOn k = (.ok v, read))
    (hcheck : s.check (some v) = some e) :
    ∃ next, (checkDocument w journal s document).runOn k = (.ok false, next) ∧
      next.out = k.out ++ report journal document (Place.mk s (some v) none).findings := by
  have hout : read.out = k.out := by rw [← out_readDocument w document k, hread]
  have hlines := map_reportLine_reported hcheck
  have hlength : (reported e).length = (Place.mk s (some v) none).findings.length := by
    simpa using congrArg List.length hlines
  have hjoined : (reported e).map (fun leaf => reportLine leaf ++ "\n") =
      (Place.mk s (some v) none).findings.map fun f => findingLine f ++ "\n" := by
    simpa [Function.comp_def] using congrArg (List.map (· ++ "\n")) hlines
  obtain ⟨noted, hnote, hnoted⟩ := runOn_note journal (rejection document (reported e).length)
    { read with out := read.out ++ (document ++ ": invalid") ++ "\n" }
  rw [rejection] at hnote
  refine ⟨{ noted with out := noted.out ++ String.join ((reported e).map fun leaf => reportLine leaf ++ "\n") }, ?_, ?_⟩
  · unfold checkDocument
    rw [runOn_bind_of_ok hread]
    simp only [hcheck]
    rw [runOn_bind_of_ok (runOn_say _ _), runOn_bind_of_ok hnote, runOn_bind_of_ok (runOn_forIn_say reportLine _ _)]
    rfl
  · rw [hjoined, hnoted, hlength, hout]
    simp [report, String.append_assoc]

/-- A document that is rejected has been read, a check finds it wrong, and the report about it has been printed. -/
theorem report_of_rejected {next : Console} (rejected : (checkDocument w journal s document).runOn k = (.ok false, next)) :
    ∃ v read, (readDocument w document).runOn k = (.ok v, read) ∧ s.isValid (some v) = false ∧
      next.out = k.out ++ report journal document (Place.mk s (some v) none).findings := by
  cases hread : (readDocument w document).runOn k with
  | mk result read =>
    cases result with
    | error e =>
      rw [checkDocument, runOn_bind, hread] at rejected
      cases rejected
    | ok v =>
      cases hcheck : s.check (some v) with
      | none => cases (checkDocument_of_accepted hread hcheck).symm.trans rejected
      | some e =>
        obtain ⟨_, hrun, hout⟩ := checkDocument_of_refused journal hread hcheck
        cases hrun.symm.trans rejected
        exact ⟨v, read, rfl, by rw [Schema.isValid, hcheck]; rfl, hout⟩

/-- Each document that a check rejects has its report in the output, with one line for each failing place and none besides, in
depth-first order. A line says the message declared for the first unmet demand of its place exactly if the demand is that of a
presence or of a set, or of a rule that says the same by itself. -/
theorem checkCommand_reports_failing_places {c : Compiler} {path : String} {before after : List String} {verdicts : List Bool}
    {compiled reached next : Console}
    (hschema : (readSchema w journal c path).runOn k = (.ok (.schema s), compiled))
    (hbefore : (before.mapM (checkDocument w journal s)).runOn compiled = (.ok verdicts, reached))
    (hrejected : (checkDocument w journal s document).runOn reached = (.ok false, next)) :
    ∃ v read, (readDocument w document).runOn reached = (.ok v, read) ∧ s.isValid (some v) = false ∧
      ∃ findings rest, (Place.mk s (some v) none).Found findings ∧
        ((checkCommand w journal c path (before ++ document :: after)).runOn k).2.out =
          reached.out ++ report journal document findings ++ rest ∧
        ∀ f ∈ findings, ∀ message, f.declared? = some message →
          (f.said = message ↔ (f.demand.isRule = true → f.plain = message)) := by
  obtain ⟨v, read, hread, hinvalid, hout⟩ := report_of_rejected hrejected
  refine ⟨v, read, hread, hinvalid, (Place.mk s (some v) none).findings, ?_⟩
  -- What comes after the report adds to it.
  have hrest : ∃ rest, ((checkCommand w journal c path (before ++ document :: after)).runOn k).2.out = next.out ++ rest := by
    unfold checkCommand
    rw [runOn_bind_of_ok hschema]
    simp only
    rw [runOn_bind, runOn_mapM_append hbefore hrejected after, ← runOn_bind]
    refine Appends.bind ?_ (fun verdicts => (appends_note _ _).bind fun _ => .pure _) next
    exact (Appends.mapM (appends_checkDocument w journal s) after).bind fun more => .pure _
  obtain ⟨rest, hrest⟩ := hrest
  refine ⟨rest, Place.found_findings _, by rw [hrest, hout], fun f _ message hdeclared => Demand.said_eq_iff hdeclared⟩

end

namespace ReportWitness

open Compiler.SmallCase (compiler)

/-- A description of addresses, with a message of its own, beside a document that is no address. -/
def world : World where
  entry path :=
    if path = "address.json" then .file (some "[[\"do.string\"],[\"do.email\",\"no address\"]]")
    else if path = "entry.json" then .file (some "\"x\"")
    else .absent
  input := none
  environment := ⟨[]⟩

/-- A log that lets nothing through. -/
def journal : Journal := ⟨.default, ⟨[]⟩⟩

/-- A console on which nothing has been written. -/
def blank : Console := ⟨"", "", none⟩

/-- The schema of addresses. -/
def address : Schema := (Schema.ofTag .string).ruleWithMessage .email (some "no address")

theorem read?_address :
    Json.read? "[[\"do.string\"],[\"do.email\",\"no address\"]]" =
      some (.arr [.arr [.str "do.string"], .arr [.str "do.email", .str "no address"]]) := by
  have htype : Json.ReadsItems 125 [.text "do.string", .mark ']', .mark ',', .mark '[', .text "do.email", .mark ',',
      .text "no address", .mark ']', .mark ']'] _ _ := Json.readsItems_last (Json.reads_text _ _ _)
  have hrule : Json.ReadsItems 125 [.text "do.email", .mark ',', .text "no address", .mark ']', .mark ']'] _ _ :=
    Json.readsItems_cons (Json.reads_text _ _ _) (Json.readsItems_last (Json.reads_text _ _ _))
  have hchain := Json.readsItems_cons (Json.reads_arr htype) (Json.readsItems_last (Json.reads_arr hrule))
  refine Json.read?_of_reads ?_ (Json.reads_arr hchain)
  with_unfolding_all rfl

theorem read?_entry : Json.read? "\"x\"" = some (.str "x") := by
  refine Json.read?_of_reads ?_ (Json.reads_text _ _ _)
  with_unfolding_all rfl

theorem readSchema_address (k : Console) :
    (readSchema world journal compiler "address.json").runOn k = (.ok (.schema address), k) := by
  unfold readSchema
  rw [runOn_bind_of_ok (runOn_readDocument_of_file (by decide) rfl read?_address k)]
  rfl

/-- What is written about the entry. -/
def written : Console := ⟨"entry.json: invalid\n  <root>: Invalid format (invalid_format)\n", "", none⟩

theorem checkDocument_entry : (checkDocument world journal address "entry.json").runOn blank = (.ok false, written) := by
  unfold checkDocument
  rw [runOn_bind_of_ok (runOn_readDocument_of_file (by decide) rfl read?_entry blank)]
  rfl

/-- No document comes before the entry. -/
theorem mapM_nil : (([] : List String).mapM (checkDocument world journal address)).runOn blank = (.ok [], blank) := rfl

/-- The report about the entry. -/
theorem checkCommand_reports_entry :
    ((readSchema world journal compiler "address.json").runOn blank = (.ok (.schema address), blank) ∧
      (([] : List String).mapM (checkDocument world journal address)).runOn blank = (.ok [], blank) ∧
      (checkDocument world journal address "entry.json").runOn blank = (.ok false, written)) ∧
    ∃ v read, (readDocument world "entry.json").runOn blank = (.ok v, read) ∧ address.isValid (some v) = false ∧
      ∃ findings rest, (Place.mk address (some v) none).Found findings ∧
        ((checkCommand world journal compiler "address.json" ([] ++ "entry.json" :: [])).runOn blank).2.out =
          blank.out ++ report journal "entry.json" findings ++ rest ∧
        ∀ f ∈ findings, ∀ message, f.declared? = some message →
          (f.said = message ↔ (f.demand.isRule = true → f.plain = message)) :=
  ⟨⟨readSchema_address blank, mapM_nil, checkDocument_entry⟩,
    checkCommand_reports_failing_places (readSchema_address blank) mapM_nil checkDocument_entry⟩

/-- The entry, as a check of it begins. -/
def entry : Place := ⟨address, some (.str "x"), none⟩

/-- What is asked of an address. -/
def addressRule : Demand := .rule (.withMessage .email "no address")

/-- The message declared for an address is nowhere in the report about an entry that is none. -/
theorem declared_message_not_shown :
    (readSchema world journal compiler "address.json").runOn blank = (.ok (.schema address), blank) ∧
    (checkDocument world journal address "entry.json").runOn blank = (.ok false, written) ∧
    (entry.Reaches [] entry ∧ entry.firstUnmet? = some addressRule ∧ addressRule.declared? entry = some "no address") ∧
    (checkCommand world journal compiler "address.json" ["entry.json"]).runOn blank = (.ok 1, written) ∧
    Text.occursIn "no address" written.out = false := by
  refine ⟨readSchema_address blank, checkDocument_entry, ⟨.here _, rfl, rfl⟩, ?_, by decide⟩
  unfold checkCommand
  rw [runOn_bind_of_ok (readSchema_address blank)]
  simp only [List.mapM_cons, List.mapM_nil, pure_bind, bind_assoc]
  rw [runOn_bind_of_ok checkDocument_entry]
  rfl

end ReportWitness

end Schemata.CommandLine
