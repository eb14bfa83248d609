import Schemata.Proofs.Compiler.Calls
import Schemata.Proofs.Compiler.Reports

/-!
# What a compiler asks its registry

A custom builder is looked up only by a text of the description: by the text as it stands, and by what follows the first marker in it.
The keys of mappings and the texts of patterns name nothing. So two registries that have the same builders under these names give the
same compilation, and a builder registered under any other name is never noticed (`Compiler.compile_registry_congr`).
-/

namespace Schemata

namespace Node

mutual

/-- The texts of a description, in order. -/
def texts (n : Node) : List String :=
  match n with
  | .str s => [s]
  | .seq items => itemTexts items
  | .map fields => fieldTexts fields
  | _ => []
termination_by structural n

/-- The texts of items, in order. -/
def itemTexts (items : List Node) : List String :=
  match items with
  | [] => []
  | n :: rest => texts n ++ itemTexts rest
termination_by structural items

/-- The texts of fields, in order; their keys are none. -/
def fieldTexts (fields : List (String × Node)) : List String :=
  match fields with
  | [] => []
  | (_, n) :: rest => texts n ++ fieldTexts rest
termination_by structural fields

end

end Node

namespace Compiler

/-- A compiler with another registry. -/
def withRegistry (c : Compiler) (r : Registry) : Compiler :=
  { c with registry := r }

/-- The names that a registry is asked for by a text: the text, and what follows the first marker in it. -/
def askedBy (c : Compiler) (s : String) : List String :=
  s :: (Text.afterFirst? c.marker s).toList

/-- The names that a registry may be asked for by a description. -/
def asked (c : Compiler) (n : Node) : List String :=
  n.texts.flatMap c.askedBy

/-- The names that a registry may be asked for besides, when a description is read as the fields of an object. -/
def askedBesides (c : Compiler) : Node → List String
  | .seq _ => []
  | _ => ["object", "required", "shape"].flatMap fun name => [c.marker ++ name, name]

/-- Another registry has the same builders under the names that texts ask for. -/
def SameFor (c : Compiler) (r : Registry) (texts : List String) : Prop :=
  ∀ name ∈ texts.flatMap c.askedBy, r.get? name = c.registry.get? name

variable {c : Compiler} {r : Registry}

/-- Registries that are the same for some texts together are the same for each part. -/
theorem sameFor_append {texts more : List String} : c.SameFor r (texts ++ more) ↔ c.SameFor r texts ∧ c.SameFor r more := by
  rw [SameFor, List.flatMap_append]
  exact List.forall_mem_append

/-- A text names the same builder. -/
theorem lookup?_withRegistry {s : String} (h : ∀ name ∈ c.askedBy s, r.get? name = c.registry.get? name)
    (receiver : Option Term) :
    (c.withRegistry r).lookup? s receiver = c.lookup? s receiver := by
  have hself : r.get? s = c.registry.get? s := h s List.mem_cons_self
  rw [lookup?_eq_calledBuilder?, lookup?_eq_calledBuilder?, calledBuilder?, calledBuilder?]
  simp only [withRegistry, hself]
  cases hbare : Text.afterFirst? c.marker s with
  | none => rfl
  | some bare =>
    have hrest : r.get? bare = c.registry.get? bare := h bare (by simp [askedBy, hbare])
    simp only [Option.bind_some, hrest]

/-- A node names the same builder. -/
theorem resolve_withRegistry {name : Node} (h : c.SameFor r name.texts) (receiver : Option Term) :
    (c.withRegistry r).resolve name receiver = c.resolve name receiver := by
  unfold resolve
  cases hs : nameSlot name with
  | str s =>
    have hmem : s ∈ name.texts := by
      unfold nameSlot at hs
      split at hs
      · subst hs
        simp [Node.texts, Node.itemTexts]
      · subst hs
        simp [Node.texts]
    simp only [lookup?_withRegistry fun asked hasked => h asked (List.mem_flatMap.mpr ⟨s, hmem, hasked⟩)]
  | _ => rfl

/-- Every part of a description compiles alike with registries that are the same for its texts. -/
theorem all_withRegistry :
    (∀ n, c.SameFor r n.texts → (c.withRegistry r).compile n = c.compile n) ∧
      (∀ fields, c.SameFor r (Node.fieldTexts fields) → (c.withRegistry r).compileFields fields = c.compileFields fields) ∧
      (∀ items, c.SameFor r (Node.itemTexts items) → (c.withRegistry r).compileItems items = c.compileItems items) ∧
      (∀ items receiver, c.SameFor r (Node.itemTexts items) → (c.withRegistry r).invoke items receiver = c.invoke items receiver) ∧
      (∀ items, c.SameFor r (Node.itemTexts items) → (c.withRegistry r).compileRest items = c.compileRest items) ∧
      ∀ elements step acc, c.SameFor r (Node.itemTexts elements) →
        (c.withRegistry r).chain elements step acc = c.chain elements step acc := by
  refine compile.mutual_induct c _ _ _ _ _ _ ?null ?boolean ?number ?text ?pattern ?invocation ?list ?mapping ?noItems ?item ?nothing
    ?chain ?call ?noRest ?rest ?chainEnd ?chainCall ?chainShape ?chainText ?chainOther ?noFields ?field
  case null => exact fun _ => rfl
  case boolean => exact fun _ _ => rfl
  case number => exact fun _ _ => rfl
  case text => exact fun _ _ => rfl
  case pattern => exact fun _ _ => rfl
  case invocation =>
    intro items hinv ih h
    have hinv' : Node.isInvocation (c.withRegistry r).marker items = true := hinv
    rw [compile_invocation _ hinv, compile_invocation _ hinv', ih h]
  case list =>
    intro items hinv ih h
    have hinv' : ¬Node.isInvocation (c.withRegistry r).marker items = true := hinv
    rw [compile, compile, if_neg hinv, if_neg hinv', ih h]
  case mapping =>
    intro fields ih h
    rw [compile, compile, ih h]
  -- Items, fields, and the items after the first.
  case noItems => exact fun _ => rfl
  case item =>
    intro n rest ihHead ihRest h
    obtain ⟨hn, hrest⟩ := sameFor_append.mp h
    rw [compileItems, compileItems, ihHead hn, ihRest hrest]
  -- Calls: nothing, a chain, or a name with its arguments.
  case nothing => exact fun _ _ => rfl
  case chain =>
    intro receiver first rest ihFirst ihRest h
    obtain ⟨hfirst, hrest⟩ := sameFor_append.mp h
    rw [invoke, invoke, ihFirst hfirst]
    exact bind_congr fun acc => ihRest acc hrest
  case call =>
    intro receiver name raw hname ihRest ihCall ihItems h
    obtain ⟨hn, hraw⟩ := sameFor_append.mp h
    have hargs : ∀ binding, (c.withRegistry r).compileArguments binding raw = c.compileArguments binding raw := fun binding => by
      rw [compileArguments, compileArguments, ihRest hraw, ihCall hraw, ihItems hraw]
      rfl
    rw [c.invoke_name hname, (c.withRegistry r).invoke_name hname, resolve_withRegistry hn]
    simp only [hargs]
    rfl
  case noRest => exact fun _ => rfl
  case rest =>
    intro n rest ih h
    obtain ⟨-, hrest⟩ := sameFor_append.mp h
    rw [compileRest, compileRest, ih hrest]
  -- Chains, by the element that comes next.
  case chainEnd => exact fun _ _ _ => rfl
  case chainCall =>
    intro step acc items rest ihCall ihRest h
    obtain ⟨hitems, hrest⟩ := sameFor_append.mp h
    rw [chain, chain, ihCall hitems]
    exact bind_congr fun acc => bind_congr fun _ => ihRest acc hrest
  case chainShape =>
    intro step acc rest ihRest h
    obtain ⟨-, hrest⟩ := sameFor_append.mp h
    have hs : c.shapeMarker = (c.withRegistry r).shapeMarker := rfl
    rw [chain, chain, if_pos rfl, if_pos hs]
    exact bind_congr fun acc => bind_congr fun _ => ihRest acc hrest
  case chainText =>
    intro step acc s rest hs ihRest h
    obtain ⟨-, hrest⟩ := sameFor_append.mp h
    have hs' : ¬s = (c.withRegistry r).shapeMarker := hs
    rw [chain, chain, if_neg hs, if_neg hs']
    exact bind_congr fun acc => bind_congr fun _ => ihRest acc hrest
  case chainOther =>
    intro step acc n rest hseq hstr ih ihRest h
    obtain ⟨hn, hrest⟩ := sameFor_append.mp h
    rw [c.chain_other hseq hstr, (c.withRegistry r).chain_other hseq hstr, ih hn]
    exact bind_congr fun acc => bind_congr fun _ => ihRest acc hrest
  case noFields => exact fun _ => rfl
  case field =>
    intro key n rest ihHead ihRest h
    obtain ⟨hn, hrest⟩ := sameFor_append.mp h
    rw [compileFields, compileFields, ihHead hn, ihRest hrest]

/-- A name behind the marker asks for itself, and for what is behind the marker. -/
theorem askedBy_marked (c : Compiler) (name : String) : c.askedBy (c.marker ++ name) = [c.marker ++ name, name] := by
  rw [askedBy, Text.afterFirst?_append]
  rfl

/-- What a whole description stands for asks for the names that make an object of it, and for those of the description. -/
theorem asked_standsFor (c : Compiler) (n : Node) : c.asked (c.standsFor n) = c.askedBesides n ++ c.asked n := by
  cases n with
  | seq items => rfl
  | _ => simp [asked, askedBesides, standsFor, Node.texts, Node.itemTexts, askedBy_marked]

/-- A description compiles alike with registries that are the same for its texts. -/
theorem compile_withRegistry {n : Node} (h : ∀ name ∈ c.asked n, r.get? name = c.registry.get? name) :
    (c.withRegistry r).compile n = c.compile n :=
  all_withRegistry.1 n h

/-- A whole description compiles alike with registries that are the same for what it stands for. -/
theorem transform_withRegistry {n : Node} (h : ∀ name ∈ c.asked n ++ c.askedBesides n, r.get? name = c.registry.get? name) :
    (c.withRegistry r).transform n = c.transform n := by
  obtain ⟨hn, hbesides⟩ := List.forall_mem_append.mp h
  have hstands : (c.withRegistry r).compile (c.standsFor n) = c.compile (c.standsFor n) := by
    refine compile_withRegistry ?_
    rw [asked_standsFor]
    exact List.forall_mem_append.mpr ⟨hbesides, hn⟩
  cases n <;> exact congrArg (Traced.mapError _) hstands

/-- A description is compiled with the builders that its registry has under the texts of the description, and under what follows the
first marker in each of them. Two registries that have the same builders under these names give the same compilation, whatever
the marker is; for a whole description that is read as the fields of an object, the names that make the object count too. So a
builder registered under any other name changes nothing. -/
theorem compile_registry_congr (c : Compiler) (n : Node) :
    (∀ r, (∀ name ∈ c.asked n, r.get? name = c.registry.get? name) → (c.withRegistry r).compile n = c.compile n) ∧
      (∀ r, (∀ name ∈ c.asked n ++ c.askedBesides n, r.get? name = c.registry.get? name) →
        (c.withRegistry r).transform n = c.transform n) ∧
      ∀ unrelated builder, unrelated ∉ c.asked n →
        (c.withRegistry (c.registry.register unrelated builder)).compile n = c.compile n ∧
          (unrelated ∉ c.askedBesides n →
            (c.withRegistry (c.registry.register unrelated builder)).transform n = c.transform n) := by
  have hother : ∀ {unrelated : String} (builder : CustomBuilder) {names : List String}, unrelated ∉ names →
      ∀ name ∈ names, (c.registry.register unrelated builder).get? name = c.registry.get? name :=
    fun builder _ h name hm => Registry.get?_register_of_ne _ builder fun heq => h (heq ▸ hm)
  refine ⟨fun r => compile_withRegistry, fun r => transform_withRegistry, fun unrelated builder hn => ?_⟩
  refine ⟨compile_withRegistry (hother builder hn), fun hbesides => transform_withRegistry (hother builder ?_)⟩
  exact List.not_mem_append hn hbesides

namespace LocalityWitness

/-- A builder of texts. -/
def word : CustomBuilder :=
  fun _ => .ok (.schema (.ofTag .string))

/-- A builder of nothing. -/
def nothing : CustomBuilder :=
  fun _ => .ok (.literal .null)

/-- A compiler with a builder of the user's own. -/
def compiler : Compiler :=
  ⟨"do.", Registry.empty.register "word" word, false, SmallCase.marker_ne⟩

/-- A registry with that builder and one that has the name of a field. -/
def larger : Registry :=
  (Registry.empty.register "name" nothing).register "word" word

/-- An object whose one field is built by the builder. -/
def described : Node :=
  .map [("name", .seq [.seq [.str "do.word"], .seq [.str "do.label", .str "full name"]])]

/-- A builder that has the name of a field is not noticed. -/
theorem compile_with_larger :
    (∀ name ∈ compiler.asked described ++ compiler.askedBesides described, larger.get? name = compiler.registry.get? name) ∧
      "name" ∉ compiler.asked described ++ compiler.askedBesides described ∧
      (compiler.withRegistry larger).compile described = compiler.compile described ∧
      (compiler.withRegistry larger).transform described = compiler.transform described ∧
      (compiler.withRegistry (compiler.registry.register "name" nothing)).transform described = compiler.transform described ∧
      (compiler.transform described).result =
        .ok (.schema (((Schema.ofTag .object).required none).shape [("name", (Schema.ofTag .string).label "full name")])) := by
  have hnames : compiler.asked described ++ compiler.askedBesides described =
      ["do.word", "word", "do.label", "label", "full name", "do.object", "object", "do.required", "required", "do.shape",
        "shape"] := by
    decide
  have hagree : ∀ name ∈ compiler.asked described ++ compiler.askedBesides described,
      larger.get? name = compiler.registry.get? name := by
    rw [hnames]
    simp only [List.forall_mem_cons]
    exact ⟨rfl, rfl, rfl, rfl, rfl, rfl, rfl, rfl, rfl, rfl, rfl, nofun⟩
  have hnew : "name" ∉ compiler.asked described ++ compiler.askedBesides described := by
    rw [hnames]
    decide
  obtain ⟨hcompile, htransform, hregister⟩ := compiler.compile_registry_congr described
  refine ⟨hagree, hnew, hcompile larger (List.forall_mem_append.mp hagree).1, htransform larger hagree, ?_, rfl⟩
  exact (hregister "name" nothing fun h => hnew (List.mem_append_left _ h)).2 fun h => hnew (List.mem_append_right _ h)

end LocalityWitness

end Compiler

end Schemata
