import Schemata.CommandLine.Session
import Schemata.Proofs.Settings.Layers
import Schemata.Proofs.Settings.Variables

/-!
# Where a setting comes from

A setting that is loaded is the one of the uppermost layer that has it, each by itself: the flags, the environment, a configuration
file, the defaults. When all values are of the right form, loading fails for nothing but an empty marker, and that only if no layer
above hides it (`load_precedence`).
-/

namespace Schemata.Settings

open CommandLine (World Flags configOf configDocument defaultConfig)

variable {host : Log.Host} {e : Environment} {file : Option Json}

/-! ## Precedence -/

/-- The marker of the uppermost layer that has one: the flags, the environment, a configuration file, the defaults. -/
def resultingMarker (e : Environment) (flags : Flags) (file : Option Json) : String :=
  ((flags.marker.or (e.text? "STENCIL_MARKER")).or ((given? file ["compiler", "marker"]).bind Json.asText?)).getD "stencil."

/-- Each setting is the one of the uppermost layer that has it. -/
structure Precedence (host : Log.Host) (e : Environment) (flags : Flags) (file : Option Json) (s : Settings) : Prop where
  marker : s.compiler.marker = resultingMarker e flags file
  level :
    s.log.level =
      (((flags.logLevel.or (e.text? "STENCIL_LOG")).or (e.text? "RUST_LOG")).or
        ((given? file ["log", "level"]).bind Json.asText?)).getD "warn"
  format :
    s.log.format.name =
      ((e.text? "STENCIL_LOG_FORMAT").or ((given? file ["log", "format"]).bind Json.asWord?)).getD "compact"
  writer : s.log.writer.name = ((given? file ["log", "writer"]).bind Json.asWord?).getD (default host).log.writer.name
  display : ∀ switch ∈ Log.Display.switches,
    switch.2 s.log.display =
      ((given? file ["log", "display", switch.1]).bind Json.asBool?).getD (switch.2 (default host).log.display)

/-- All values that are given have the form of their settings. -/
structure WellTyped (e : Environment) (file : Option Json) : Prop where
  marker : ∀ v, given? file ["compiler", "marker"] = some v → ∃ s, v = .str s
  level : ∀ v, given? file ["log", "level"] = some v → ∃ s, v = .str s
  format : ∀ v, given? file ["log", "format"] = some v → ∃ f : Log.Format, v = .str f.name
  writer : ∀ v, given? file ["log", "writer"] = some v → ∃ w : Log.Writer, v = .str w.name
  display : ∀ name ∈ Log.Display.names, ∀ v, given? file ["log", "display", name] = some v → ∃ b, v = .bool b
  formatVariable : ∀ text, e.text? "STENCIL_LOG_FORMAT" = some text → ∃ f : Log.Format, text = f.name

/-- The texts of variables, by the places of their settings. -/
theorem textFor?_eq (e : Environment) :
    textFor? e variablePaths ["compiler", "marker"] = e.text? "STENCIL_MARKER" ∧
      textFor? e variablePaths ["log", "level"] = (e.text? "STENCIL_LOG").or (e.text? "RUST_LOG") ∧
        textFor? e variablePaths ["log", "format"] = e.text? "STENCIL_LOG_FORMAT" ∧
          textFor? e variablePaths ["log", "writer"] = none ∧
            ∀ name, textFor? e variablePaths ["log", "display", name] = none := by
  refine ⟨?_, ?_, ?_, rfl, fun _ => rfl⟩
  · cases h : e.text? "STENCIL_MARKER" <;> simp [textFor?, variablePaths, h]
  · cases h : e.text? "STENCIL_LOG" <;> cases h' : e.text? "RUST_LOG" <;> simp [textFor?, variablePaths, h, h']
  · cases h : e.text? "STENCIL_LOG_FORMAT" <;> simp [textFor?, variablePaths, h]

/-- What a line shows can have any values by name. -/
theorem exists_display {shown : String → Option Bool} (h : ∀ name ∈ Log.Display.names, ∃ b, shown name = some b) :
    ∃ d : Log.Display, ∀ switch ∈ Log.Display.switches, shown switch.1 = some (switch.2 d) := by
  simp only [Log.Display.names, List.forall_mem_cons] at h
  obtain ⟨⟨time, htime⟩, ⟨source, hsource⟩, ⟨target, htarget⟩, ⟨threadIds, hthreadIds⟩, ⟨colors, hcolors⟩, ⟨flatten, hflatten⟩, -⟩ :=
    h
  exact ⟨⟨time, source, target, threadIds, colors, flatten⟩,
    by simp [Log.Display.switches, htime, hsource, htarget, hthreadIds, hcolors, hflatten]⟩

section

variable (flags : Flags) (tabular : ∀ v ∈ file, Tabular v)
  (texts : ∀ entry ∈ variablePaths, ∀ text, e.value? entry.1 = some text → ∃ s, variableValue text = .str s)

include tabular texts

/-- What is read from the layers, with the flags in it, has the precedence of the layers. -/
theorem precedence_of_read? {s : Settings} (h : read? host (layered host file e) = some s) :
    Precedence host e flags file (s.withFlags flags.marker flags.logLevel) := by
  obtain ⟨hmarker, hlevel, hformat, hwriter, hdisplay⟩ := ((holds_layered tabular texts).read?_eq_some_iff s).mp h
  obtain ⟨tmarker, tlevel, tformat, twriter, tdisplay⟩ := textFor?_eq e
  obtain ⟨dmarker, dlevel, dformat, dwriter, ddisplay⟩ := defaultValue_eq host
  obtain ⟨format, hformat, hformatName⟩ := Option.bind_eq_some_iff.mp hformat
  obtain ⟨writer, hwriter, hwriterName⟩ := Option.bind_eq_some_iff.mp hwriter
  have hself : ∀ o : Option String, (o.bind fun s => (Json.str s).asText?) = o := fun o => o.bind_fun_some
  have hword : ∀ o : Option String, (o.bind fun s => (Json.str s).asWord?) = o := fun o => o.bind_fun_some
  refine ⟨?_, ?_, ?_, ?_, fun switch hswitch => ?_⟩
  · have hread : s.compiler.marker = _ := eq_getD_of_read? (congrArg Json.asText? dmarker) hmarker
    show flags.marker.getD s.compiler.marker = resultingMarker e flags file
    rw [hread, tmarker, hself, resultingMarker]
    cases flags.marker <;> rfl
  · have hread : s.log.level = _ := eq_getD_of_read? (congrArg Json.asText? dlevel) hlevel
    show flags.logLevel.getD s.log.level = _
    rw [hread, tlevel, hself]
    cases flags.logLevel <;> simp
  · have hread : format = _ := eq_getD_of_read? (congrArg Json.asWord? dformat) hformat
    rw [tformat, hword] at hread
    exact (Log.Format.name_of_named? hformatName).trans hread
  · have hread : writer = _ := eq_getD_of_read? (congrArg Json.asWord? dwriter) hwriter
    rw [twriter] at hread
    exact (Log.Writer.name_of_named? hwriterName).trans hread
  · have hread := eq_getD_of_read? (congrArg Json.asBool? (ddisplay switch hswitch)) (hdisplay switch hswitch)
    rw [tdisplay] at hread
    exact hread

/-- Settings are read from the layers if all values have the form of their settings. -/
theorem exists_read?_layered (typed : WellTyped e file) : ∃ s, read? host (layered host file e) = some s := by
  obtain ⟨-, -, tformat, twriter, tdisplay⟩ := textFor?_eq e
  obtain ⟨dmarker, dlevel, dformat, dwriter, ddisplay⟩ := defaultValue_eq host
  have hmarker : ∃ a, (layeredValue host e file ["compiler", "marker"]).asText? = some a := by
    refine exists_read? Json.asText? (fun s _ => ⟨s, rfl⟩) (fun v hv => ?_) ⟨_, congrArg Json.asText? dmarker⟩
    obtain ⟨s, rfl⟩ := typed.marker v hv
    exact ⟨s, rfl⟩
  have hlevel : ∃ a, (layeredValue host e file ["log", "level"]).asText? = some a := by
    refine exists_read? Json.asText? (fun s _ => ⟨s, rfl⟩) (fun v hv => ?_) ⟨_, congrArg Json.asText? dlevel⟩
    obtain ⟨s, rfl⟩ := typed.level v hv
    exact ⟨s, rfl⟩
  have hformat : ∃ a, (layeredValue host e file ["log", "format"]).asWord?.bind Log.Format.named? = some a := by
    refine exists_read? (fun v => v.asWord?.bind Log.Format.named?) (fun s hs => ?_) (fun v hv => ?_)
      ⟨Log.Format.compact, congrArg (fun v => v.asWord?.bind Log.Format.named?) dformat⟩
    · obtain ⟨f, rfl⟩ := typed.formatVariable s (tformat.symm.trans hs)
      exact ⟨f, f.named?_name⟩
    · obtain ⟨f, rfl⟩ := typed.format v hv
      exact ⟨f, f.named?_name⟩
  have hwriter : ∃ a, (layeredValue host e file ["log", "writer"]).asWord?.bind Log.Writer.named? = some a := by
    refine exists_read? (fun v => v.asWord?.bind Log.Writer.named?) (fun s hs => nomatch twriter.symm.trans hs) (fun v hv => ?_)
      ⟨Log.Writer.stderr, congrArg (fun v => v.asWord?.bind Log.Writer.named?) dwriter⟩
    obtain ⟨w, rfl⟩ := typed.writer v hv
    exact ⟨w, w.named?_name⟩
  have hdisplay : ∀ name ∈ Log.Display.names, ∃ b, (layeredValue host e file ["log", "display", name]).asBool? = some b := by
    intro name hname
    obtain ⟨switch, hswitch, rfl⟩ : ∃ switch ∈ Log.Display.switches, switch.1 = name := List.mem_map.mp hname
    refine exists_read? Json.asBool? (fun s hs => nomatch (tdisplay switch.1).symm.trans hs) (fun v hv => ?_)
      ⟨_, congrArg Json.asBool? (ddisplay switch hswitch)⟩
    obtain ⟨b, rfl⟩ := typed.display switch.1 hname v hv
    exact ⟨b, rfl⟩
  obtain ⟨marker, hmarker⟩ := hmarker
  obtain ⟨level, hlevel⟩ := hlevel
  obtain ⟨format, hformat⟩ := hformat
  obtain ⟨writer, hwriter⟩ := hwriter
  obtain ⟨display, hdisplay⟩ := exists_display hdisplay
  exact ⟨⟨⟨marker⟩, ⟨level, format, writer, display⟩⟩,
    ((holds_layered tabular texts).read?_eq_some_iff _).mpr ⟨hmarker, hlevel, hformat, hwriter, hdisplay⟩⟩

end

/-! ## Loading -/

/-- What a session finds of a configuration file: the document of the file that the flags name, or else of the one in its usual place.
A directory has no document, and only a file that is not named may be missing. -/
inductive Configured (w : World) (flags : Flags) : Option Json → Prop where
  | file {text : String} {v : Json} (entry : w.entry (flags.config.getD defaultConfig) = .file (some text))
      (read : Toml.read? text = some v) : Configured w flags (some v)
  | directory (entry : w.entry (flags.config.getD defaultConfig) = .directory) : Configured w flags none
  | absent (unnamed : flags.config = none) (entry : w.entry defaultConfig = .absent) : Configured w flags none

section

variable {w : World} {flags : Flags}

/-- Then a session has this configuration. -/
theorem Configured.configOf_eq_ok (h : Configured w flags file) :
    ∃ config, configOf w flags = .ok config ∧ config.bind Prod.snd = file := by
  cases h with
  | file entry read =>
    cases hconfig : flags.config <;> rw [hconfig, Option.getD] at entry <;>
      simp [configOf, configDocument, hconfig, entry, read, Except.map]
  | directory entry =>
    cases hconfig : flags.config <;> rw [hconfig, Option.getD] at entry <;>
      simp [configOf, configDocument, hconfig, entry, Except.map]
  | absent unnamed entry => simp [configOf, unnamed, entry]

/-- The document of a configuration file is a table in order. -/
theorem Configured.tabular (h : Configured w flags file)
    (tables : ∀ path ∈ tablePaths, ∀ v, given? file path = some v → ∃ members : Members, v = .obj members) :
    ∀ v ∈ file, Tabular v := by
  rintro v rfl
  cases h with
  | file entry read =>
    obtain ⟨members, rfl, hsorted⟩ := Toml.read?_sorted read
    exact ⟨⟨members, rfl⟩, hsorted, tables⟩

/-- Settings are those read from the layers, with the flags in them, unless their marker is empty. -/
theorem load_of_read? {s : Settings} (h : read? host (layered host file e) = some s) (marker level : Option String) :
    load host file e marker level =
      if (s.withFlags marker level).compiler.marker = "" then .error (.compiler .emptyMarker) else .ok (s.withFlags marker level) := by
  unfold load CompilerOptions.validate
  rw [h]
  by_cases hempty : (s.withFlags marker level).compiler.marker = "" <;> simp [hempty]

/-- Where the tables of a configuration file are tables and the variables that are set are read as texts, every setting that is loaded
is the one of the uppermost layer that has it: the flags, the environment, the file, the defaults. If all values have the form of their
settings, then loading fails exactly when the marker that comes out is empty, whatever markers the layers below have, and wherever the
program runs. -/
theorem load_precedence (host : Log.Host) (configured : Configured w flags file)
    (tables : ∀ path ∈ tablePaths, ∀ v, given? file path = some v → ∃ members : Members, v = .obj members)
    (texts : ∀ entry ∈ variablePaths, ∀ text, w.environment.value? entry.1 = some text → ∃ s, variableValue text = .str s) :
    ∃ config, configOf w flags = .ok config ∧ config.bind Prod.snd = file ∧
      (∀ s, load host file w.environment flags.marker flags.logLevel = .ok s → Precedence host w.environment flags file s) ∧
      (WellTyped w.environment file →
        ((∃ failure, load host file w.environment flags.marker flags.logLevel = .error failure) ↔
          resultingMarker w.environment flags file = "")) := by
  obtain ⟨config, hconfig, hdocument⟩ := configured.configOf_eq_ok
  have tabular := configured.tabular tables
  refine ⟨config, hconfig, hdocument, fun s hload => ?_, fun typed => ?_⟩
  · cases hread : read? host (layered host file w.environment) with
    | none =>
      unfold load at hload
      rw [hread] at hload
      cases hload
    | some s' =>
      rw [load_of_read? hread] at hload
      split at hload
      · cases hload
      · cases hload
        exact precedence_of_read? flags tabular texts hread
  · obtain ⟨s, hread⟩ : ∃ s, read? host (layered host file w.environment) = some s := exists_read?_layered tabular texts typed
    have hmarker := (precedence_of_read? flags tabular texts hread).marker
    rw [load_of_read? hread, ← hmarker]
    by_cases hempty : (s.withFlags flags.marker flags.logLevel).compiler.marker = ""
    · rw [if_pos hempty]
      exact ⟨fun _ => hempty, fun _ => ⟨_, rfl⟩⟩
    · rw [if_neg hempty]
      exact ⟨fun ⟨_, herror⟩ => (nomatch herror), fun h => absurd h hempty⟩

end

namespace PrecedenceWitness

open Toml (Token)

/-- A configuration file that sets an empty marker and turns off the time, its tokens, and its document. -/
def text : String := "compiler.marker=''\nlog.display.time=false"

def tokens : List Token :=
  [.word "compiler".toList, .mark '.', .word "marker".toList, .mark '=', .text "" false, .lineEnd,
    .word "log".toList, .mark '.', .word "display".toList, .mark '.', .word "time".toList, .mark '=', .word "false".toList]

def document : Json :=
  .obj [("compiler", .obj [("marker", .str "")]), ("log", .obj [("display", .obj [("time", .bool false)])])]

/-- A line with a path of keys and a value. -/
theorem statements?_entry {cs : List Char} {more written after left : List Token} {keys : List String} {last : String} {v : Json}
    {h : (Token.mark '=' :: written).length < (Token.word cs :: more).length} {h' : after.length < (Toml.afterBlank written).length}
    (path : Toml.path? (.word cs :: more) = some ((keys, last), ⟨.mark '=' :: written, h⟩))
    (value : Toml.value? Toml.maxDepth (Toml.afterBlank written) = some (v, ⟨after, h'⟩))
    (line : (Toml.afterLine? after).map Subtype.val = some left) :
    Toml.statements? (.word cs :: more) = (Toml.statements? left).map (.entry keys last v :: ·) := by
  have hentry : ∃ r, Toml.statement? (.word cs :: more) = some (.entry keys last v, r) ∧ r.1 = after := by
    have hstatement : Toml.statement? (.word cs :: more) = Toml.entry? (.word cs :: more) := rfl
    rw [hstatement, Toml.entry?, path]
    exact ⟨_, congrArg (Option.map _) value, rfl⟩
  obtain ⟨⟨after', hafter⟩, hentry, rfl⟩ := hentry
  obtain ⟨r, hr, rfl⟩ := Option.map_eq_some_iff.mp line
  rw [Toml.statements?, hentry]
  · simp only [hr]
  · simp
  · simp

theorem statements?_tokens :
    Toml.statements? tokens = some [.entry ["compiler"] "marker" (.str ""), .entry ["log", "display"] "time" (.bool false)] := by
  have hmarker : Toml.path? tokens = some ((["compiler"], "marker"), ⟨tokens.drop 3, by decide⟩) := by
    with_unfolding_all rfl
  have hempty : Toml.value? Toml.maxDepth (tokens.drop 4) = some (.str "", ⟨tokens.drop 5, by decide⟩) := by
    show Toml.value? Toml.maxDepth (.text "" false :: tokens.drop 5) = _
    rw [Toml.value?]
    rfl
  have htime : Toml.path? (tokens.drop 6) = some ((["log", "display"], "time"), ⟨tokens.drop 11, by decide⟩) := by
    with_unfolding_all rfl
  have hfalse : Toml.value? Toml.maxDepth (tokens.drop 12) = some (.bool false, ⟨[], by decide⟩) := by
    show Toml.value? Toml.maxDepth [.word "false".toList] = _
    rw [Toml.value?]
    · rfl
    · simp
    · simp
    · simp
  have hlast : Toml.statements? (tokens.drop 6) = some [.entry ["log", "display"] "time" (.bool false)] :=
    (statements?_entry htime hfalse (by with_unfolding_all rfl)).trans (by with_unfolding_all rfl)
  exact (statements?_entry hmarker hempty (by with_unfolding_all rfl)).trans (congrArg _ hlast)

theorem read?_text : Toml.read? text = some document := by
  have hlines : Toml.unifyLineEnds (Toml.withoutMark text.toList) = text.toList := by decide
  have hplain : text.toList.all Toml.isPlain = true := by decide
  have htokens : Toml.tokens? text.toList = some tokens := by with_unfolding_all rfl
  unfold Toml.read?
  simp only [hlines, hplain, htokens, if_true, Option.bind_eq_bind, Option.bind_some, statements?_tokens]
  rfl

/-- A session with this file in its usual place, a marker in the environment, and the level of another program there. -/
def world : World where
  entry path := if path = defaultConfig then .file (some text) else .absent
  input := none
  environment := ⟨[("RUST_LOG", "debug"), ("STENCIL_MARKER", "w:")]⟩

def flags : Flags := ⟨none, none, none, false⟩

/-- A program that was not built for debugging, on a terminal. -/
def released : Log.Host := ⟨false, true⟩

theorem values :
    world.environment.value? "RUST_LOG" = some "debug" ∧ world.environment.value? "STENCIL_LOG" = none ∧
      world.environment.value? "STENCIL_LOG_FORMAT" = none ∧ world.environment.value? "STENCIL_MARKER" = some "w:" := by
  simp only [world, Environment.value?, trimmed, Unicode.whiteSpace_eq]
  decide

theorem texts : variableValue "debug" = .str "debug" ∧ variableValue "w:" = .str "w:" := by
  have hdebug : "debug".toList = 'd' :: ['e', 'b', 'u', 'g'] := rfl
  have hmarker : "w:".toList = 'w' :: [':'] := rfl
  constructor
  · refine variableValue_of_word hdebug rfl ?_ (by decide) (by decide)
    simp [isSeparator, Unicode.CharSet.contains, Unicode.CharSet.has, Unicode.whiteSpace_eq]
  · refine variableValue_of_word hmarker rfl ?_ (by decide) (by decide)
    simp [isSeparator, Unicode.CharSet.contains, Unicode.CharSet.has, Unicode.whiteSpace_eq]

/-- What the variables say. -/
theorem text?_world :
    world.environment.text? "RUST_LOG" = some "debug" ∧ world.environment.text? "STENCIL_LOG" = none ∧
      world.environment.text? "STENCIL_LOG_FORMAT" = none ∧ world.environment.text? "STENCIL_MARKER" = some "w:" := by
  obtain ⟨hrust, hlevel, hformat, hmarker⟩ := values
  unfold Environment.text?
  rw [hrust, hlevel, hformat, hmarker, Option.bind_some, Option.bind_some, texts.1, texts.2]
  exact ⟨rfl, rfl, rfl, rfl⟩

theorem tables : ∀ path ∈ tablePaths, ∀ v, given? (some document) path = some v → ∃ members : Members, v = .obj members := by
  intro path hp v hv
  simp only [tablePaths, List.mem_cons, List.not_mem_nil, or_false] at hp
  rcases hp with rfl | rfl | rfl
  · exact ⟨_, (Option.some.inj hv).symm⟩
  · exact ⟨_, (Option.some.inj hv).symm⟩
  · exact ⟨_, (Option.some.inj hv).symm⟩

theorem typed : WellTyped world.environment (some document) where
  marker v hv := ⟨"", (Option.some.inj hv).symm⟩
  level v hv := (Option.some_ne_none v hv.symm).elim
  format v hv := (Option.some_ne_none v hv.symm).elim
  writer v hv := (Option.some_ne_none v hv.symm).elim
  display := by
    have hall : ∀ name ∈ Log.Display.names, given? (some document) ["log", "display", name] =
        if name = "time" then some (.bool false) else none := by
      simp only [Log.Display.names, List.forall_mem_cons]
      exact ⟨rfl, rfl, rfl, rfl, rfl, rfl, List.forall_mem_nil _⟩
    intro name hname v hv
    rw [hall name hname] at hv
    split at hv
    · exact ⟨false, (Option.some.inj hv).symm⟩
    · cases hv
  formatVariable text htext := (Option.some_ne_none text (htext.symm.trans text?_world.2.2.1)).elim

/-- The marker in the environment stands in for the empty one in the file, and the other settings come from where they are given. -/
theorem load_world :
    (Configured world flags (some document) ∧
      (∀ path ∈ tablePaths, ∀ v, given? (some document) path = some v → ∃ members : Members, v = .obj members) ∧
      (∀ entry ∈ variablePaths, ∀ text, world.environment.value? entry.1 = some text → ∃ s, variableValue text = .str s) ∧
      WellTyped world.environment (some document)) ∧
    ∃ s, load released (some document) world.environment none none = .ok s ∧ s.compiler.marker = "w:" ∧ s.log.level = "debug" ∧
      s.log.format.name = "compact" ∧ s.log.writer.name = "stderr" ∧ s.log.display.time = false ∧ s.log.display.target = true ∧
        s.log.display.source = false ∧ s.log.display.colors = true := by
  have hconfigured : Configured world flags (some document) := .file rfl read?_text
  have htexts : ∀ entry ∈ variablePaths, ∀ text, world.environment.value? entry.1 = some text →
      ∃ s, variableValue text = .str s := by
    obtain ⟨hrust, hlevel, hformat, hmarker⟩ := values
    obtain ⟨hdebug, hword⟩ := texts
    simp only [variablePaths, List.forall_mem_cons, hrust, hlevel, hformat, hmarker]
    exact ⟨fun text h => ⟨_, Option.some.inj h ▸ hdebug⟩, nofun, nofun, fun text h => ⟨_, Option.some.inj h ▸ hword⟩, nofun⟩
  refine ⟨⟨hconfigured, tables, htexts, typed⟩, ?_⟩
  obtain ⟨hrust, hlevel, hformat, hmarker⟩ := text?_world
  obtain ⟨config, -, -, hprecedence, hfails⟩ := load_precedence released hconfigured tables htexts
  have hresult : resultingMarker world.environment flags (some document) = "w:" := by
    rw [resultingMarker, hmarker]
    rfl
  cases hload : load released (some document) world.environment none none with
  | error failure =>
    have hempty := (hfails typed).mp ⟨failure, hload⟩
    rw [hresult] at hempty
    exact absurd hempty (by decide)
  | ok s =>
    have p := hprecedence s hload
    refine ⟨s, rfl, p.marker.trans hresult, p.level.trans ?_, p.format.trans ?_, p.writer, ?_, ?_, ?_, ?_⟩
    · rw [hlevel, hrust]
      rfl
    · rw [hformat]
      rfl
    · exact p.display ("time", Log.Display.time) (by simp [Log.Display.switches])
    · exact p.display ("target", Log.Display.target) (by simp [Log.Display.switches])
    · exact p.display ("source", Log.Display.source) (by simp [Log.Display.switches])
    · exact p.display ("colors", Log.Display.colors) (by simp [Log.Display.switches])

end PrecedenceWitness

end Schemata.Settings
