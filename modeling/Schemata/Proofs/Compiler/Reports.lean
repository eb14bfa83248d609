import Schemata.Proofs.Compiler.Failures
import Schemata.Proofs.Json.Reading

/-!
# Reported errors

A whole description fails exactly when what it stands for fails (`transform_eq_error_iff`), and the error is reported once: that of a
builder as it is, any other with the text of the description as it was given. That text can be read again as the description
(`transform_reports_compile_errors`).
-/

namespace Schemata

namespace Compiler

variable (c : Compiler)

/-- What a whole description stands for: a sequence for itself, and anything else for an object that has to be there and has its
fields. -/
def standsFor : Node → Node
  | .seq items => .seq items
  | n => .seq [.seq [.str (c.marker ++ "object")], .seq [.str (c.marker ++ "required")], .seq [.str (c.marker ++ "shape"), n]]

/-- A whole description is compiled as what it stands for; only its errors are reported differently. -/
theorem result_transform (n : Node) : (c.transform n).result = (c.compile (c.standsFor n)).result.mapError (.wrap n.text) := by
  cases n <;> rfl

/-- A whole description gives the term of what it stands for. -/
theorem transform_eq_ok_iff (n : Node) (t : Term) :
    (c.transform n).result = .ok t ↔ (c.compile (c.standsFor n)).result = .ok t := by
  rw [result_transform, mapError_eq_ok_iff]

/-- A whole description fails with the error of what it stands for, as it is reported. -/
theorem transform_eq_error_iff (n : Node) (e : CompileError) :
    (c.transform n).result = .error e ↔
      ∃ own, (c.compile (c.standsFor n)).result = .error own ∧ own.ReportedAs n.text e := by
  rw [result_transform, mapError_eq_error_iff]
  constructor
  · rintro ⟨own, h, hwrap⟩
    exact ⟨own, h, ((c.compile_failsDirectly _ own h).wrap_eq_iff n.text e).mp hwrap⟩
  · rintro ⟨own, h, hreported⟩
    exact ⟨own, h, ((c.compile_failsDirectly _ own h).wrap_eq_iff n.text e).mpr hreported⟩

/-- Compiling a description fails for a name, for the form of an argument or because a builder refuses, and never with an error that
is already reported. A whole description fails exactly when what it stands for does: a builder's refusal is the error, and any
other error is reported with the text of the description around it. When the description was decoded from a document, that text is
read as the same description, if printing a document and reading it again gives the document. -/
theorem transform_reports_compile_errors (n : Node) :
    (∀ e, (c.compile n).result = .error e → e.Direct) ∧
      (∀ t, (c.transform n).result = .ok t ↔ (c.compile (c.standsFor n)).result = .ok t) ∧
      (∀ e, (c.transform n).result = .error e ↔
        ∃ own, (c.compile (c.standsFor n)).result = .error own ∧ own.ReportedAs n.text e) ∧
      ∀ v, Node.decode v = .ok n → Json.read? n.toJson.text = some n.toJson →
        Node.read n.text = .ok n ∧ n.same n = true :=
  ⟨c.compile_failsDirectly n, c.transform_eq_ok_iff n, c.transform_eq_error_iff n,
    fun _ decoded readBack => ⟨Node.read_text decoded readBack, n.same_self⟩⟩

namespace ReportsWitness

open SmallCase (compiler)

/-- A call of a builder that there is not, with a pattern whose flag is written apart. -/
def document : Json :=
  .arr [.str "do.nothing", .obj [("$flags", .str "s"), ("$regex", .str "a")]]

/-- The pattern, with its flag in its text. -/
def dotAll : Pattern :=
  (Pattern.compile "(?s)a").toOption.get (by decide +kernel)

theorem compile_dotAll : Pattern.compile "(?s)a" = .ok dotAll := by
  have hsome : (Pattern.compile "(?s)a").toOption.isSome = true := by decide +kernel
  cases h : Pattern.compile "(?s)a" with
  | ok p => simp [dotAll, h, Except.toOption]
  | error e =>
    rw [h] at hsome
    cases hsome

/-- The description that the document writes. -/
def described : Node :=
  .seq [.str "do.nothing", .pattern dotAll]

theorem decode_document : Node.decode document = .ok described := by
  have hpattern : Node.decodePattern [("$flags", .str "s"), ("$regex", .str "a")] = .ok dotAll := by
    show (Pattern.compile "(?s)a").mapError _ = _
    rw [compile_dotAll]
    rfl
  have hliteral : Node.decode (.obj [("$flags", .str "s"), ("$regex", .str "a")]) = .ok (.pattern dotAll) := by
    rw [Node.decode, if_pos (by decide), hpattern]
    rfl
  rw [document, Node.decode, Node.decodeItems, Node.decodeItems, Node.decodeItems, hliteral]
  rfl

theorem toJson_described : described.toJson = .arr [.str "do.nothing", .obj [("$regex", .str "(?s)a")]] := by
  have hsource : dotAll.source = "(?s)a" := Pattern.source_of_compile compile_dotAll
  show Json.arr [.str "do.nothing", .obj [("$regex", .str dotAll.source)]] = _
  rw [hsource]

theorem read?_described : Json.read? described.toJson.text = some described.toJson := by
  rw [toJson_described]
  have hpattern : Json.Reads 126 [.mark '\x7b', .text "$regex", .mark ':', .text "(?s)a", .mark '\x7d', .mark ']'] _ _ :=
    Json.reads_obj (Json.readsMembers_last (Json.reads_text _ _ _))
  have hitems := Json.readsItems_cons (Json.reads_text _ "do.nothing" _) (Json.readsItems_last hpattern)
  refine Json.read?_of_reads ?_ (Json.reads_arr hitems)
  with_unfolding_all rfl

theorem transform_described :
    (Node.decode document = .ok described ∧ Json.read? described.toJson.text = some described.toJson) ∧
    (compiler.compile (compiler.standsFor described)).result = .error (.unresolved "do.nothing") ∧
    (compiler.transform described).result =
      .error (.within "[\"do.nothing\",\x7b\"$regex\":\"(?s)a\"\x7d]" (.unresolved "do.nothing")) ∧
    Node.read described.text = .ok described := by
  have hfails : (compiler.compile (compiler.standsFor described)).result = .error (.unresolved "do.nothing") := rfl
  have htext : described.text = "[\"do.nothing\",\x7b\"$regex\":\"(?s)a\"\x7d]" := by
    rw [Node.text, toJson_described]
    decide +kernel
  obtain ⟨-, -, hreports, hread⟩ := compiler.transform_reports_compile_errors described
  refine ⟨⟨decode_document, read?_described⟩, hfails, (hreports _).mpr ⟨_, hfails, ?_⟩, (hread _ decode_document read?_described).1⟩
  rw [htext]
  exact .unresolved _

end ReportsWitness

end Compiler

end Schemata
