import Schemata.Proofs.Compiler.Calls
import Schemata.Proofs.Compiler.Failures
import Schemata.Proofs.Library.FieldSchemas

/-!
# Bare mappings

A mapping in the place of a description describes an object that has to be there, whatever the marker: `Compiler.transform` calls the
builders of objects, of presence and of shapes for it. Its fields are compiled first, in order; then each has to be a schema or a
shape.
-/

namespace Schemata

namespace Compiler

variable (c : Compiler)

/-- No custom builder stands in for one of the library, with the marker or without it. -/
def LeavesAlone (name : String) : Prop :=
  c.registry.get? name = none ∧ c.registry.get? (c.marker ++ name) = none

/-- Without custom builders, none stands in for one of the library. -/
theorem leavesAlone_of_empty (empty : c.registry = Registry.empty) (name : String) : c.LeavesAlone name := by
  rw [LeavesAlone, empty]
  exact ⟨rfl, rfl⟩

/-- Fields compile to terms under the same keys. -/
def FieldsCompile (fields : List (String × Node)) (terms : List (String × Term)) : Prop :=
  List.Forall₂ (fun field compiled => field.1 = compiled.1 ∧ (c.compile field.2).result = .ok compiled.2) fields terms

/-- A schema with the fields of a shape. -/
def withShape (s : Schema) (terms : List (String × Term)) : Except CompileError Term := do
  let schemas ← ((⟨"shape", [.shape terms]⟩ : Arguments).fieldSchemas 0 terms).mapError .build
  return .schema (s.shape schemas)

/-- The schema of objects that have to be there, with the fields of a shape. -/
def requiredObject (terms : List (String × Term)) : Except CompileError Term := do
  let schemas ← ((⟨"shape", [.shape terms]⟩ : Arguments).fieldSchemas 0 terms).mapError .build
  return .schema ((Schema.objectOf schemas).required none)

/-! ## The three calls -/

/-- A name with the marker in front of it calls a member of the schema before it, or a root builder. -/
theorem calledBuilder?_marked {name : String} (alone : c.LeavesAlone name) (receiver : Option Term) :
    c.calledBuilder? receiver (c.marker ++ name) = (memberOf? receiver name <|> (Root.named? name).map .root) := by
  unfold calledBuilder?
  rw [alone.2, Text.afterFirst?_append]
  simp only [Option.bind_some, alone.1, Option.map_none]
  rcases receiver with _ | (_ | _ | _ | _ | s | _) <;> rfl

/-- A root builder is called without arguments. -/
theorem called_root (r : Root) (alone : c.LeavesAlone r.name) (receiver : Option Term) :
    c.called receiver ⟨c.marker ++ r.name, []⟩ = (r.build ⟨r.name, []⟩).mapError .build := by
  rw [called, calledBuilder?_marked c alone, memberOf?_root, Root.named?_name]
  cases r <;> rfl

/-- A chain of nothing but a root builder gives what the builder gives. -/
theorem result_compile_root (r : Root) (alone : c.LeavesAlone r.name) :
    (c.compile (.seq [.seq [.str (c.marker ++ r.name)]])).result = (r.build ⟨r.name, []⟩).mapError .build := by
  have marked : Text.occursIn c.marker (c.marker ++ r.name) = true :=
    (Text.occursIn_iff _ _).mpr ⟨"", r.name, by simp⟩
  have hcalls := c.result_compile_calls ⟨c.marker ++ r.name, []⟩ [] marked (by simp [Node.isInvocation])
  rw [c.called_root r alone none] at hcalls
  exact hcalls.trans (bind_pure _)

/-- They have to be there. -/
theorem called_required (alone : c.LeavesAlone "required") :
    c.called (some (.schema (.ofTag .object))) ⟨c.marker ++ "required", []⟩ =
      .ok (.schema ((Schema.ofTag .object).required none)) := by
  rw [called, calledBuilder?_marked c alone]
  rfl

/-- The member of shapes gives a schema the fields of one. -/
theorem build_shape (s : Schema) (terms : List (String × Term)) :
    ((Member.shape.build s ⟨"shape", [.shape terms]⟩).map Term.schema).mapError CompileError.build = withShape s terms := by
  show ((s.shape <$> (⟨"shape", [.shape terms]⟩ : Arguments).fieldSchemas 0 terms).map Term.schema).mapError CompileError.build =
    withShape s terms
  rw [withShape]
  cases (⟨"shape", [.shape terms]⟩ : Arguments).fieldSchemas 0 terms <;> rfl

/-- Objects that have to be there get fields like any other schema. -/
theorem requiredObject_eq : requiredObject = withShape ((Schema.ofTag .object).required none) := by
  funext terms
  rw [requiredObject, withShape]
  cases (⟨"shape", [.shape terms]⟩ : Arguments).fieldSchemas 0 terms <;> rfl

/-- A mapping that is the one argument of a call is compiled to a shape. -/
theorem calledArguments_map {binding : Binding} (noPattern : binding.takesPattern = false) (fields : List (String × Node)) :
    c.calledArguments binding [.map fields] = (fun terms => [.shape terms]) <$> (c.compileFields fields).result := by
  rw [c.calledArguments_of_not_takesPattern noPattern, List.mapM_cons, List.mapM_nil, result_compile_map]
  cases (c.compileFields fields).result <;> rfl

/-- A schema of objects has the fields of a mapping after a call with the mapping. -/
theorem called_shape (alone : c.LeavesAlone "shape") {s : Schema} (object : s.tag = .object) (fields : List (String × Node)) :
    c.called (some (.schema s)) ⟨c.shapeMarker, [.map fields]⟩ = (c.compileFields fields).result >>= withShape s := by
  have hfound : c.calledBuilder? (some (.schema s)) c.shapeMarker = some (.member .shape s) := by
    have hnamed : Member.named? s.tag "shape" = some .shape := by
      rw [object]
      rfl
    rw [shapeMarker, calledBuilder?_marked c alone, memberOf?_eq_some_iff.mpr ⟨s, .shape, rfl, hnamed, rfl⟩]
    rfl
  have hargs : c.calledArguments (.member .shape s) [.map fields] = _ := c.calledArguments_map rfl fields
  rw [called, hfound]
  simp only [hargs]
  cases (c.compileFields fields).result with
  | error e => rfl
  | ok terms => exact build_shape s terms

/-- A bare mapping is compiled field by field; then the fields become schemas, or the first stray one is refused. -/
theorem result_transform_map (alone : ∀ name ∈ ["object", "required", "shape"], c.LeavesAlone name)
    (fields : List (String × Node)) :
    (c.transform (.map fields)).result =
      ((c.compileFields fields).result >>= requiredObject).mapError (.wrap (Node.map fields).text) := by
  have marked : Text.occursIn c.marker (c.marker ++ "object") = true :=
    (Text.occursIn_iff _ _).mpr ⟨"", "object", by simp⟩
  have hcalls : (c.compile (c.implicitObject (.map fields))).result =
      c.called none ⟨c.marker ++ "object", []⟩ >>=
        [⟨c.marker ++ "required", []⟩, ⟨c.shapeMarker, [.map fields]⟩].foldlM fun acc call => c.called (some acc) call :=
    c.result_compile_calls ⟨c.marker ++ "object", []⟩ [⟨c.marker ++ "required", []⟩, ⟨c.shapeMarker, [.map fields]⟩] marked
      (by simp [Node.isInvocation, Node.headsInvocation])
  have hobject : c.called none ⟨c.marker ++ "object", []⟩ = .ok (.schema (.ofTag .object)) :=
    c.called_root .object (alone "object" (by simp)) none
  show ((c.compile (c.implicitObject (.map fields))).result).mapError _ = _
  rw [hcalls, hobject]
  show (List.foldlM (fun acc call => c.called (some acc) call) _ _).mapError _ = _
  rw [List.foldlM_cons, c.called_required (alone _ (by simp))]
  show (List.foldlM (fun acc call => c.called (some acc) call) _ _).mapError _ = _
  rw [List.foldlM_cons, c.called_shape (alone _ (by simp)) rfl, ← requiredObject_eq]
  simp only [List.foldlM_nil, bind_pure]

/-! ## What a bare mapping describes -/

/-- Fields compile in order to terms under their keys. -/
theorem compileFields_eq_ok_iff (fields : List (String × Node)) (terms : List (String × Term)) :
    (c.compileFields fields).result = .ok terms ↔ c.FieldsCompile fields terms := by
  have hfield : ∀ (field : String × Node) (compiled : String × Term),
      ((field.1, ·) <$> (c.compile field.2).result) = .ok compiled ↔
        field.1 = compiled.1 ∧ (c.compile field.2).result = .ok compiled.2 := by
    rintro ⟨key, n⟩ ⟨key', t⟩
    rw [map_eq_ok_iff]
    constructor
    · rintro ⟨t', h, heq⟩
      obtain ⟨rfl, rfl⟩ := Prod.mk.inj heq
      exact ⟨rfl, h⟩
    · rintro ⟨rfl, h⟩
      exact ⟨t, h, rfl⟩
  rw [result_compileFields, mapM_eq_ok_iff, FieldsCompile]
  simp only [hfield]

/-- Fields compile in order, up to the first that does not. -/
theorem compileFields_eq_error_iff (fields : List (String × Node)) (e : CompileError) :
    (c.compileFields fields).result = .error e ↔
      ∃ before key n after, fields = before ++ (key, n) :: after ∧
        (∀ field ∈ before, ∃ t, (c.compile field.2).result = .ok t) ∧ (c.compile n).result = .error e := by
  rw [result_compileFields, mapM_eq_error_iff]
  simp only [map_eq_error_iff, map_eq_ok_iff]
  constructor
  · rintro ⟨before, ⟨key, n⟩, after, rfl, hbefore, h⟩
    refine ⟨before, key, n, after, rfl, ?_, h⟩
    intro field hf
    obtain ⟨-, t, ht, -⟩ := hbefore field hf
    exact ⟨t, ht⟩
  · rintro ⟨before, key, n, after, rfl, hbefore, h⟩
    refine ⟨before, (key, n), after, rfl, ?_, h⟩
    intro field hf
    obtain ⟨t, ht⟩ := hbefore field hf
    exact ⟨_, t, ht, rfl⟩

/-- A shape gives a schema fields when its fields describe schemas. -/
theorem withShape_eq_ok_iff (s : Schema) (terms : List (String × Term)) (t : Term) :
    withShape s terms = .ok t ↔ ∃ schemas, FieldsDescribe terms schemas ∧ t = .schema (s.shape schemas) := by
  rw [withShape, bind_eq_ok_iff]
  simp only [mapError_eq_ok_iff, Arguments.fieldSchemas_eq_ok_iff]
  constructor
  · rintro ⟨schemas, h, ht⟩
    exact ⟨schemas, h, (Except.ok.inj ht).symm⟩
  · rintro ⟨schemas, h, rfl⟩
    exact ⟨schemas, h, rfl⟩

theorem requiredObject_eq_ok_iff (terms : List (String × Term)) (t : Term) :
    requiredObject terms = .ok t ↔
      ∃ schemas, FieldsDescribe terms schemas ∧ t = .schema ((Schema.objectOf schemas).required none) := by
  rw [requiredObject_eq]
  exact withShape_eq_ok_iff _ terms t

/-- A shape is refused for the first of its fields that is neither a schema nor a shape. -/
theorem withShape_eq_error_iff (s : Schema) (terms : List (String × Term)) (e : CompileError) :
    withShape s terms = .error e ↔ ∃ key stray rest, strayFields terms = (key, stray) :: rest ∧
      e = .build (.invalidArgument "shape" 0 ("a schema for field `" ++ key ++ "`, found a " ++ stray.kindName)) := by
  rw [withShape, bind_eq_error_iff, mapError_eq_error_iff]
  simp only [Arguments.fieldSchemas_eq_error_iff]
  constructor
  · rintro (⟨-, ⟨key, stray, rest, hs, rfl⟩, rfl⟩ | ⟨schemas, -, h⟩)
    · exact ⟨key, stray, rest, hs, rfl⟩
    · cases h
  · rintro ⟨key, stray, rest, hs, rfl⟩
    exact Or.inl ⟨_, ⟨key, stray, rest, hs, rfl⟩, rfl⟩

theorem requiredObject_eq_error_iff (terms : List (String × Term)) (e : CompileError) :
    requiredObject terms = .error e ↔ ∃ key stray rest, strayFields terms = (key, stray) :: rest ∧
      e = .build (.invalidArgument "shape" 0 ("a schema for field `" ++ key ++ "`, found a " ++ stray.kindName)) := by
  rw [requiredObject_eq]
  exact withShape_eq_error_iff _ terms e

/-- Terms have the keys of the fields that they are compiled from, and so have the schemas that the terms describe. -/
theorem keys_eq_of_describe {fields : List (String × Node)} {terms : List (String × Term)} {schemas : List (String × Schema)}
    (hc : c.FieldsCompile fields terms) (hd : FieldsDescribe terms schemas) : Mapping.keys schemas = Mapping.keys fields := by
  induction hc generalizing schemas with
  | nil =>
    cases hd
    rfl
  | cons hfield _ ih =>
    cases hd with
    | cons _ tail => exact congrArg₂ List.cons hfield.1.symm (ih tail)

/-- A bare mapping describes an object that has to be there, with the fields that the mapping describes, if every field compiles to
a schema or a shape of such. If some field does not compile, the first of these is reported, with the text of the mapping; else the
first field, from the top down, that is neither a schema nor a shape. -/
theorem transform_map_iff (alone : ∀ name ∈ ["object", "required", "shape"], c.LeavesAlone name)
    (fields : List (String × Node)) :
    (∀ t, (c.transform (.map fields)).result = .ok t ↔
      ∃ terms schemas, c.FieldsCompile fields terms ∧ FieldsDescribe terms schemas ∧
        t = .schema { (Schema.ofTag .object).required none with kind := .object (Mapping.ofList schemas) }) ∧
    (∀ e, (c.transform (.map fields)).result = .error e ↔
      (∃ before key n after own, fields = before ++ (key, n) :: after ∧
        (∀ field ∈ before, ∃ t, (c.compile field.2).result = .ok t) ∧ (c.compile n).result = .error own ∧
        own.ReportedAs (Node.map fields).text e) ∨
      ∃ terms key stray rest, c.FieldsCompile fields terms ∧ strayFields terms = (key, stray) :: rest ∧
        e = .build (.invalidArgument "shape" 0 ("a schema for field `" ++ key ++ "`, found a " ++ stray.kindName))) ∧
    ∀ terms schemas, c.FieldsCompile fields terms → FieldsDescribe terms schemas → Mapping.Ordered fields →
      Mapping.ofList schemas = schemas ∧ Mapping.keys schemas = Mapping.keys fields := by
  refine ⟨fun t => ?_, fun e => ?_, fun terms schemas hc hd ordered => ?_⟩
  · rw [c.result_transform_map alone, mapError_eq_ok_iff, bind_eq_ok_iff]
    simp only [c.compileFields_eq_ok_iff, requiredObject_eq_ok_iff]
    constructor
    · rintro ⟨terms, hc, schemas, hd, rfl⟩
      exact ⟨terms, schemas, hc, hd, rfl⟩
    · rintro ⟨terms, schemas, hc, hd, rfl⟩
      exact ⟨terms, hc, schemas, hd, rfl⟩
  · rw [c.result_transform_map alone, mapError_eq_error_iff]
    constructor
    · rintro ⟨own, h, hwrap⟩
      rcases bind_eq_error_iff.mp h with h | ⟨terms, hterms, h⟩
      · obtain ⟨before, key, n, after, hf, hbefore, hn⟩ := (c.compileFields_eq_error_iff fields own).mp h
        exact Or.inl ⟨before, key, n, after, own, hf, hbefore, hn, ((c.compile_failsDirectly n own hn).wrap_eq_iff _ e).mp hwrap⟩
      · obtain ⟨key, stray, rest, hs, rfl⟩ := (requiredObject_eq_error_iff terms own).mp h
        exact Or.inr ⟨terms, key, stray, rest, (c.compileFields_eq_ok_iff fields terms).mp hterms, hs, hwrap.symm⟩
    · rintro (⟨before, key, n, after, own, hf, hbefore, hn, hreported⟩ | ⟨terms, key, stray, rest, hc, hs, rfl⟩)
      · refine ⟨own, bind_eq_error_iff.mpr (Or.inl ?_), ((c.compile_failsDirectly n own hn).wrap_eq_iff _ e).mpr hreported⟩
        exact (c.compileFields_eq_error_iff fields own).mpr ⟨before, key, n, after, hf, hbefore, hn⟩
      · have hstray := (requiredObject_eq_error_iff terms _).mpr ⟨key, stray, rest, hs, rfl⟩
        exact ⟨_, bind_eq_error_iff.mpr (Or.inr ⟨terms, (c.compileFields_eq_ok_iff fields terms).mpr hc, hstray⟩), rfl⟩
  · have hkeys := c.keys_eq_of_describe hc hd
    refine ⟨Mapping.ofList_eq_of_ordered ?_, hkeys⟩
    rw [Mapping.ordered_iff_keys, hkeys, ← Mapping.ordered_iff_keys]
    exact ordered

namespace BareMappingWitness

/-- A compiler without custom builders. -/
def compiler : Compiler :=
  ⟨"do.", Registry.empty, false, by decide⟩

/-- A mapping with a mapping in it, which both describe objects. -/
def person : List (String × Node) :=
  [("age", .seq [.seq [.str "do.number"]]), ("home", .map [("city", .seq [.seq [.str "do.string"]])])]

/-- The fields that the mapping describes. -/
def personFields : List (String × Schema) :=
  [("age", .ofTag .number), ("home", .objectOf [("city", .ofTag .string)])]

/-- A mapping with a text in the place of a schema, in a mapping in it. -/
def stray : List (String × Node) :=
  [("home", .map [("city", .str "anywhere")]), ("zip", .null)]

theorem transform_person_and_stray :
    (∀ name ∈ ["object", "required", "shape"], compiler.LeavesAlone name) ∧
    (compiler.transform (.map person)).result =
      .ok (.schema { (Schema.ofTag .object).required none with kind := .object (Mapping.ofList personFields) }) ∧
    (compiler.transform (.map stray)).result =
      .error (.build (.invalidArgument "shape" 0 "a schema for field `city`, found a literal")) := by
  have alone : ∀ name ∈ ["object", "required", "shape"], compiler.LeavesAlone name := fun _ _ => ⟨rfl, rfl⟩
  refine ⟨alone, ?_, ?_⟩
  · refine ((compiler.transform_map_iff alone person).1 _).mpr
      ⟨[("age", .schema (.ofTag .number)), ("home", .shape [("city", .schema (.ofTag .string))])], personFields, ?_, ?_, rfl⟩
    · exact .cons ⟨rfl, rfl⟩ (.cons ⟨rfl, rfl⟩ .nil)
    · exact .cons (.schema _) (.cons (.shape (.cons (.schema _) .nil)) .nil)
  · refine ((compiler.transform_map_iff alone stray).2.1 _).mpr (Or.inr
      ⟨[("home", .shape [("city", .literal (.str "anywhere"))]), ("zip", .literal .null)], "city", .literal (.str "anywhere"),
        [("zip", .literal .null)], ?_, rfl, rfl⟩)
    exact .cons ⟨rfl, rfl⟩ (.cons ⟨rfl, rfl⟩ .nil)

end BareMappingWitness

end Compiler

end Schemata
