import Schemata.Proofs.Json.Overlay
import Schemata.Proofs.Toml.Sorted
import Schemata.Settings.Load

/-!
# Settings in layers

The document of the settings has one value at the place of every setting, and only tables on the way (`Settings.Holds`). Laying a
configuration file over the defaults, or a variable over both, keeps this and changes the values that the layer above has
(`Holds.overlay`, `Holds.layVariable`), so at every place there is the value of the uppermost layer that has one (`holds_layered`).
Settings are read from these values, each from its own (`Holds.read?_eq_some_iff`).
-/

namespace Schemata

/-- Of a document in order, only tables are on the way to the end of a path if there are only objects. -/
theorem Json.tablesAlong_of_ordered {v : Json} {path : List String} (ordered : v.AllObjects Mapping.Ordered)
    (objects : ∀ path', path' <+: path → path' ≠ path → ∀ w, v.at? path' = some w → ∃ members : Members, w = .obj members) :
    v.TablesAlong path := by
  induction path generalizing v with
  | nil => trivial
  | cons key rest ih =>
    obtain ⟨members, rfl⟩ := objects [] List.nil_prefix (List.cons_ne_nil key rest).symm v rfl
    obtain ⟨hmembers, hvalues⟩ := (Json.allObjects_obj_iff members).mp ordered
    refine ⟨members, rfl, hmembers, fun w hw => ih (hvalues _ (Mapping.mem_of_get? hw)) fun path' hfront hne u hu => ?_⟩
    refine objects (key :: path') ((List.prefix_cons_inj key).mpr hfront) (fun heq => hne (List.tail_eq_of_cons_eq heq)) u ?_
    rw [Json.at?_cons, Json.member?, hw]
    exact hu

/-! ## The places of settings -/

/-- What a line shows, by the names of the settings. -/
def Log.Display.switches : List (String × (Display → Bool)) :=
  [("time", time), ("source", source), ("target", target), ("thread_ids", threadIds), ("colors", colors), ("flatten", flatten)]

/-- What a line shows is read name by name. -/
theorem Log.Display.read?_eq_some_iff (host : Host) {fields : Members} {value : String → Json} (d : Display)
    (h : ∀ name ∈ names, fields.get? name = some (value name)) :
    Display.read? .ignored (.obj fields) host = some d ↔
      ∀ switch ∈ switches, (value switch.1).asBool? = some (switch.2 d) := by
  simp only [names, List.forall_mem_cons] at h
  obtain ⟨ht, hs, hg, hi, hc, hf, -⟩ := h
  simp only [Display.read?, Json.fields?, Option.bind_eq_bind, Option.bind_some, Json.fieldOr?_of_get? _ _ ht,
    Json.fieldOr?_of_get? _ _ hs, Json.fieldOr?_of_get? _ _ hg, Json.fieldOr?_of_get? _ _ hi, Json.fieldOr?_of_get? _ _ hc,
    Json.fieldOr?_of_get? _ _ hf, Option.bind_eq_some_iff, switches, List.forall_mem_cons]
  constructor
  · rintro ⟨time, htime, source, hsource, target, htarget, threadIds, hthreadIds, colors, hcolors, flatten, hflatten, ⟨⟩⟩
    exact ⟨htime, hsource, htarget, hthreadIds, hcolors, hflatten, nofun⟩
  · rintro ⟨htime, hsource, htarget, hthreadIds, hcolors, hflatten, -⟩
    exact ⟨_, htime, _, hsource, _, htarget, _, hthreadIds, _, hcolors, _, hflatten, rfl⟩

/-- The format of a name has this name. -/
theorem Log.Format.name_of_named? {s : String} {f : Format} (h : named? s = some f) : f.name = s := by
  simpa using List.find?_some h

/-- The place of a name has this name. -/
theorem Log.Writer.name_of_named? {s : String} {w : Writer} (h : named? s = some w) : w.name = s := by
  simpa using List.find?_some h

/-- The text that a variable of the environment is read as, if it is set and read as a text. -/
def Environment.text? (e : Environment) (name : String) : Option String :=
  (e.value? name).bind fun text => (Settings.variableValue text).asText?

namespace Settings

/-- The places of the tables of settings. -/
def tablePaths : List (List String) :=
  [["compiler"], ["log"], ["log", "display"]]

/-- The places of the settings. -/
def settingPaths : List (List String) :=
  [["compiler", "marker"], ["log", "level"], ["log", "format"], ["log", "writer"]]
    ++ Log.Display.names.map fun name => ["log", "display", name]

variable {v upper : Json} {value : List String → Json} {host : Log.Host} {e : Environment} {file : Option Json}
  {path path' : List String}

/-- No setting stands inside another. -/
theorem eq_of_isPrefix (h : path ∈ settingPaths) (h' : path' ∈ settingPaths) (hfront : path <+: path') : path = path' := by
  have hall : ∀ p ∈ settingPaths, ∀ q ∈ settingPaths, p <+: q → p = q := by decide
  exact hall path h path' h' hfront

/-- What a setting stands in is the document or a table. -/
theorem mem_tablePaths_of_isPrefix (h : path ∈ settingPaths) (hfront : path' <+: path) (hne : path' ≠ path) :
    path' = [] ∨ path' ∈ tablePaths := by
  have hall : ∀ p ∈ settingPaths, ∀ q ∈ p.inits, q ≠ p → q = [] ∨ q ∈ tablePaths := by decide
  exact hall path h path' ((List.mem_inits path' path).mpr hfront) hne

/-- A document with one value at the place of a setting has nothing at the places of others. -/
theorem at?_nest (h : path ∈ settingPaths) (h' : path' ∈ settingPaths) (v : Json) :
    (Json.nest path v).at? path' = if path = path' then some v else none := by
  split
  · rename_i heq
    exact heq ▸ Json.at?_nest_self path v
  · rename_i hne
    exact Json.at?_nest_of_apart (fun hfront => hne (eq_of_isPrefix h h' hfront))
      (fun hfront => hne (eq_of_isPrefix h' h hfront).symm) v

/-- A document is a table in order, and so is what it has at the places of tables. -/
structure Tabular (v : Json) : Prop where
  table : ∃ members : Members, v = .obj members
  sorted : Toml.Sorted v
  tables : ∀ path ∈ tablePaths, ∀ w, v.at? path = some w → ∃ members : Members, w = .obj members

/-- On the way to a setting there are only tables then. -/
theorem Tabular.tablesAlong (h : Tabular v) (hp : path ∈ settingPaths) : v.TablesAlong path := by
  refine Json.tablesAlong_of_ordered h.sorted fun path' hfront hne w hw => ?_
  rcases mem_tablePaths_of_isPrefix hp hfront hne with rfl | hmem
  · cases hw
    exact h.table
  · exact h.tables path' hmem w hw

/-- A document has a value at the place of every setting, and only tables on the way to it. -/
structure Holds (v : Json) (value : List String → Json) : Prop where
  tables : ∀ path ∈ settingPaths, v.TablesAlong path
  values : ∀ path ∈ settingPaths, v.at? path = some (value path)

/-! ## Layers -/

/-- What is laid over the settings replaces the values that it has. -/
theorem Holds.overlay (h : Holds v value) (tables : ∀ path ∈ settingPaths, upper.TablesAlong path)
    (whole : ∀ path ∈ settingPaths, ∀ u, upper.at? path = some u → u.overlay (value path) = u) :
    Holds (upper.overlay v) fun path => (upper.at? path).getD (value path) where
  tables path hp := (tables path hp).overlay (h.tables path hp)
  values path hp := by
    have hv := h.values path hp
    have hat := Json.at?_overlay (tables path hp) (h.tables path hp) fun u w hu hw => by
      cases hv.symm.trans hw
      exact whole path hp u hu
    rw [hat, hv, Option.or_some]

/-- A variable that is read as a text, if it is set, replaces the value of its setting. -/
theorem Holds.layVariable (h : Holds v value) {entry : String × List String} (hentry : entry.2 ∈ settingPaths)
    (texts : ∀ text, e.value? entry.1 = some text → ∃ s, variableValue text = .str s) :
    Holds (layVariable e v entry) fun path =>
      ((if entry.2 = path then e.text? entry.1 else none).map Json.str).getD (value path) := by
  unfold Settings.layVariable Environment.text?
  cases hset : e.value? entry.1 with
  | none => simpa using h
  | some text =>
    obtain ⟨s, hs⟩ := texts text hset
    have hat : ∀ path ∈ settingPaths, (Json.nest entry.2 (.str s)).at? path = if entry.2 = path then some (.str s) else none :=
      fun path hp => at?_nest hentry hp (.str s)
    have hover : Holds ((Json.nest entry.2 (.str s)).overlay v) fun path =>
        ((Json.nest entry.2 (.str s)).at? path).getD (value path) := by
      refine h.overlay (fun path hp => Json.tablesAlong_nest (eq_of_isPrefix hentry hp) (.str s)) fun path hp u hu => ?_
      rw [hat path hp] at hu
      split at hu
      · cases hu
        rfl
      · cases hu
    simp only [hs, Option.bind_some, Json.asText?]
    refine ⟨hover.tables, fun path hp => ?_⟩
    rw [hover.values path hp, hat path hp]
    split <;> rfl

/-- The text of the uppermost variable of a setting that is set. -/
def textFor? (e : Environment) (entries : List (String × List String)) (path : List String) : Option String :=
  entries.reverse.findSome? fun entry => if entry.2 = path then e.text? entry.1 else none

/-- Of variables laid over each other, the last one that is set replaces the value of a setting. -/
theorem Holds.layVariables {entries : List (String × List String)} (h : Holds v value)
    (hentries : ∀ entry ∈ entries, entry.2 ∈ settingPaths)
    (texts : ∀ entry ∈ entries, ∀ text, e.value? entry.1 = some text → ∃ s, variableValue text = .str s) :
    Holds (entries.foldl (Settings.layVariable e) v) fun path => ((textFor? e entries path).map Json.str).getD (value path) := by
  induction entries generalizing v value with
  | nil => exact h
  | cons entry rest ih =>
    obtain ⟨hentry, hrest⟩ := List.forall_mem_cons.mp hentries
    obtain ⟨htext, htexts⟩ := List.forall_mem_cons.mp texts
    have hrun := ih (h.layVariable hentry htext) hrest htexts
    refine ⟨hrun.tables, fun path hp => (hrun.values path hp).trans ?_⟩
    unfold textFor?
    rw [List.reverse_cons, List.findSome?_append, List.findSome?_singleton]
    cases List.findSome? _ rest.reverse <;> rfl

/-- The value of a setting when nothing is set. -/
def defaultValue (host : Log.Host) (path : List String) : Json :=
  ((default host).toJson.at? path).getD .null

/-- The defaults, one by one. Only what a line shows depends on the host. -/
theorem defaultValue_eq (host : Log.Host) :
    defaultValue host ["compiler", "marker"] = .str "stencil." ∧ defaultValue host ["log", "level"] = .str "warn" ∧
      defaultValue host ["log", "format"] = .str "compact" ∧ defaultValue host ["log", "writer"] = .str "stderr" ∧
        ∀ switch ∈ Log.Display.switches,
          defaultValue host ["log", "display", switch.1] = .bool (switch.2 (default host).log.display) := by
  simp only [Log.Display.switches, List.forall_mem_cons]
  rcases host with ⟨_ | _, _ | _⟩ <;>
    exact ⟨rfl, rfl, rfl, rfl, rfl, rfl, rfl, rfl, rfl, rfl, List.forall_mem_nil _⟩

theorem tabular_default (host : Log.Host) : Tabular (default host).toJson where
  table := ⟨_, rfl⟩
  sorted := by
    have htext : ∀ s, Toml.Sorted (.str s) := Json.allObjects_str
    have hcompiler : Toml.Sorted (default host).compiler.toJson := Toml.sorted_object (by simp [htext])
    have hdisplay : Toml.Sorted (default host).log.display.toJson := Toml.sorted_object (by simp [Toml.sorted_bool])
    have hlog : Toml.Sorted (default host).log.toJson := Toml.sorted_object (by simp [htext, hdisplay])
    exact Toml.sorted_object (by simp [hcompiler, hlog])
  tables := by
    intro path hp w hw
    simp only [tablePaths, List.mem_cons, List.not_mem_nil, or_false] at hp
    rcases host with ⟨_ | _, _ | _⟩ <;> rcases hp with rfl | rfl | rfl <;> exact ⟨_, (Option.some.inj hw).symm⟩

/-- What lies over a default hides it, since no default is an object. -/
theorem overlay_defaultValue (host : Log.Host) (v : Json) (hp : path ∈ settingPaths) : v.overlay (defaultValue host path) = v := by
  have hplain : ∀ p ∈ settingPaths, (defaultValue host p).typeName ≠ "object" := by
    rcases host with ⟨_ | _, _ | _⟩ <;> decide
  cases hdefault : defaultValue host path with
  | obj members => exact absurd (congrArg Json.typeName hdefault) (hplain path hp)
  | _ => cases v <;> rfl

theorem holds_default (host : Log.Host) : Holds (default host).toJson (defaultValue host) where
  tables _ hp := (tabular_default host).tablesAlong hp
  values := by
    have hall : ∀ p ∈ settingPaths, ((default host).toJson.at? p).isSome = true := by
      rcases host with ⟨_ | _, _ | _⟩ <;> decide
    intro path hp
    obtain ⟨v, hv⟩ := Option.isSome_iff_exists.mp (hall path hp)
    rw [defaultValue, hv, Option.getD_some]

/-- What a configuration file has at a path. -/
def given? (file : Option Json) (path : List String) : Option Json :=
  file.bind (·.at? path)

/-- The value of a setting in the uppermost layer that has one: the environment, a configuration file, the defaults. -/
def layeredValue (host : Log.Host) (e : Environment) (file : Option Json) (path : List String) : Json :=
  (((textFor? e variablePaths path).map Json.str).or (given? file path)).getD (defaultValue host path)

/-- The layers, one over the other, hold these values. -/
theorem holds_layered (tabular : ∀ v ∈ file, Tabular v)
    (texts : ∀ entry ∈ variablePaths, ∀ text, e.value? entry.1 = some text → ∃ s, variableValue text = .str s) :
    Holds (layered host file e) (layeredValue host e file) := by
  have hfile : Holds (file.elim (default host).toJson fun v => v.overlay (default host).toJson) fun path =>
      (given? file path).getD (defaultValue host path) := by
    cases file with
    | none => exact holds_default host
    | some v =>
      exact (holds_default host).overlay (fun path hp => (tabular v rfl).tablesAlong hp) fun path hp u _ =>
        overlay_defaultValue host u hp
  have hpaths : ∀ entry ∈ variablePaths, entry.2 ∈ settingPaths := by decide
  have hrun := hfile.layVariables hpaths texts
  refine ⟨hrun.tables, fun path hp => (hrun.values path hp).trans ?_⟩
  unfold layeredValue
  cases textFor? e variablePaths path <;> rfl

/-- What a value of the layers is read as is what the uppermost layer that has one says. -/
theorem eq_getD_of_read? {α : Type} {read? : Json → Option α} {a d : α} (hdefault : read? (defaultValue host path) = some d)
    (h : read? (layeredValue host e file path) = some a) :
    a = (((textFor? e variablePaths path).bind fun s => read? (.str s)).or ((given? file path).bind read?)).getD d := by
  unfold layeredValue at h
  cases htext : textFor? e variablePaths path with
  | some s =>
    rw [htext] at h
    have hs : read? (.str s) = some a := h
    simp [hs]
  | none =>
    cases hgiven : given? file path with
    | some v =>
      rw [htext, hgiven] at h
      have hv : read? v = some a := h
      simp [hv]
    | none =>
      rw [htext, hgiven] at h
      cases hdefault.symm.trans h
      rfl

/-- A value of the layers can be read if it can be in each of them. -/
theorem exists_read? {α : Type} (read? : Json → Option α)
    (htext : ∀ s, textFor? e variablePaths path = some s → ∃ a, read? (.str s) = some a)
    (hgiven : ∀ v, given? file path = some v → ∃ a, read? v = some a) (hdefault : ∃ a, read? (defaultValue host path) = some a) :
    ∃ a, read? (layeredValue host e file path) = some a := by
  unfold layeredValue
  cases hs : textFor? e variablePaths path with
  | some s => exact htext s hs
  | none =>
    cases hv : given? file path with
    | some v => exact hgiven v hv
    | none => exact hdefault

/-! ## Reading -/

/-- Settings are read from the values at their places. -/
theorem Holds.read?_eq_some_iff (h : Holds v value) (s : Settings) :
    read? host v = some s ↔
      (value ["compiler", "marker"]).asText? = some s.compiler.marker ∧ (value ["log", "level"]).asText? = some s.log.level ∧
        (value ["log", "format"]).asWord?.bind Log.Format.named? = some s.log.format ∧
        (value ["log", "writer"]).asWord?.bind Log.Writer.named? = some s.log.writer ∧
        ∀ switch ∈ Log.Display.switches, (value ["log", "display", switch.1]).asBool? = some (switch.2 s.log.display) := by
  -- the tables, one in the other
  obtain ⟨members, rfl, compiler, hcompiler, hmarker⟩ := Json.at?_cons_eq_some_iff.mp (h.values ["compiler", "marker"] (by decide))
  obtain ⟨options, rfl, marker, hmarker, hvalue⟩ := Json.at?_cons_eq_some_iff.mp hmarker
  cases hvalue
  obtain ⟨_, ⟨⟩, log, hlog, htime⟩ := Json.at?_cons_eq_some_iff.mp (h.values ["log", "display", "time"] (by decide))
  obtain ⟨fields, rfl, display, hdisplay, htime⟩ := Json.at?_cons_eq_some_iff.mp htime
  obtain ⟨shown, rfl, -⟩ := Json.at?_cons_eq_some_iff.mp htime
  -- the values in them
  have hfield : ∀ key, ["log", key] ∈ settingPaths → fields.get? key = some (value ["log", key]) := by
    intro key hp
    rw [← Json.at?_singleton]
    exact Json.at?_of_get? hlog (h.values _ hp)
  have hshown : ∀ name ∈ Log.Display.names, shown.get? name = some (value ["log", "display", name]) := by
    intro name hname
    have hp : ["log", "display", name] ∈ settingPaths := List.mem_append_right _ (List.mem_map_of_mem hname)
    rw [← Json.at?_singleton]
    exact Json.at?_of_get? hdisplay (Json.at?_of_get? hlog (h.values _ hp))
  rw [← Log.Display.read?_eq_some_iff host s.log.display hshown]
  simp only [read?, CompilerOptions.read?, Log.Options.read?, Json.fields?, Option.bind_eq_bind, Option.bind_some,
    Json.fieldOr?_of_get? _ _ hcompiler, Json.fieldOr?_of_get? _ _ hlog, Json.fieldOr?_of_get? _ _ hmarker,
    Json.fieldOr?_of_get? _ _ (hfield "level" (by decide)), Json.fieldOr?_of_get? _ _ (hfield "format" (by decide)),
    Json.fieldOr?_of_get? _ _ (hfield "writer" (by decide)), Json.fieldOr?_of_get? _ _ hdisplay, Option.bind_eq_some_iff]
  constructor
  · rintro ⟨_, ⟨_, hmarker, ⟨⟩⟩, _, ⟨_, hlevel, _, hformat, _, hwriter, _, hdisplay, ⟨⟩⟩, ⟨⟩⟩
    exact ⟨hmarker, hlevel, hformat, hwriter, hdisplay⟩
  · rintro ⟨hmarker, hlevel, hformat, hwriter, hdisplay⟩
    exact ⟨_, ⟨_, hmarker, rfl⟩, _, ⟨_, hlevel, _, hformat, _, hwriter, _, hdisplay, rfl⟩, rfl⟩

end Settings

end Schemata
