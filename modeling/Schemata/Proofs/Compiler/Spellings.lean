import Schemata.Proofs.Compiler.FalsyArguments

/-!
# Spellings of objects and arrays

A root builder that takes a part, the fields of an object or the items of an array, can be given the part, or be called alone with a
call of the member for the part after it. In a bare mapping, an object may also be written as the mapping of its fields. All these
spellings describe the same schemas, or none: `Compiler.compile_root_or_member` and `Compiler.Respelled.means_iff`.
-/

namespace Schemata

/-! ## Builders with a part -/

namespace Arguments

variable (args : Arguments)

theorem atMost_eq_ok_iff (most : Nat) : args.atMost most = .ok () ↔ args.items.length ≤ most := by
  unfold atMost
  split
  · rename_i h
    simpa using h
  · rename_i h
    simpa using h

/-- What is made of the one argument, if there is no other. -/
theorem made_eq_ok_iff {α β : Type} (read : Arguments → Except BuildError α) (make : α → β) (made : β) :
    (do args.atMost 1; return make (← read args)) = .ok made ↔ args.items.length ≤ 1 ∧ ∃ part, read args = .ok part ∧ make part = made := by
  constructor
  · intro h
    obtain ⟨⟨⟩, hmost, h⟩ := bind_eq_ok_iff.mp h
    obtain ⟨part, hpart, h⟩ := bind_eq_ok_iff.mp h
    exact ⟨(args.atMost_eq_ok_iff 1).mp hmost, part, hpart, Except.ok.inj h⟩
  · rintro ⟨hmost, part, hpart, rfl⟩
    exact bind_eq_ok_iff.mpr ⟨(), (args.atMost_eq_ok_iff 1).mpr hmost, bind_eq_ok_iff.mpr ⟨part, hpart, rfl⟩⟩

/-- If the argument is read alike under two names, the schema that is made of it is the same. -/
theorem made_schema_iff {α : Type} (read : Arguments → Except BuildError α) (make : α → Schema) {items : List Term} {name name' : String}
    (alike : ∀ part, read ⟨name, items⟩ = .ok part ↔ read ⟨name', items⟩ = .ok part) (t : Term) :
    (do atMost ⟨name, items⟩ 1; return Term.schema (make (← read ⟨name, items⟩))) = .ok t ↔
      ∃ s, (do atMost ⟨name', items⟩ 1; return make (← read ⟨name', items⟩)) = .ok s ∧ t = .schema s := by
  refine (made_eq_ok_iff ⟨name, items⟩ read (fun part => Term.schema (make part)) t).trans ?_
  simp only [made_eq_ok_iff ⟨name', items⟩ read make, alike]
  constructor
  · rintro ⟨hmost, part, hpart, rfl⟩
    exact ⟨make part, ⟨hmost, part, hpart, rfl⟩, rfl⟩
  · rintro ⟨_, ⟨hmost, part, hpart, rfl⟩, rfl⟩
    exact ⟨hmost, part, hpart, rfl⟩

end Arguments

/-- A root builder that takes a part, the kind of its schemas, and the member for the part. -/
inductive Root.HasPart : Root → Tag → Member → Prop where
  | fields : HasPart .object .object .shape
  | items : HasPart .array .array .of

namespace Root.HasPart

variable {r : Root} {tag : Tag} {member : Member}

/-- The member is one that schemas of the kind have. -/
theorem named? (part : r.HasPart tag member) : Member.named? tag member.name = some member := by
  cases part <;> rfl

/-- Without a part, the builder gives the schema of the kind. -/
theorem build_nil (part : r.HasPart tag member) : r.build ⟨r.name, []⟩ = .ok (.schema (.ofTag tag)) := by
  cases part <;> rfl

/-- Neither takes a pattern. -/
theorem takesPattern (part : r.HasPart tag member) (s : Schema) : (Binding.member member s).takesPattern = false := by
  cases part <;> rfl

/-- Given the part, the builder makes the schema that the member makes of the schema of the kind. -/
theorem build_eq_ok_iff (part : r.HasPart tag member) {items : List Term} (nonempty : items ≠ []) (t : Term) :
    r.build ⟨r.name, items⟩ = .ok t ↔ ∃ s, member.build (.ofTag tag) ⟨member.name, items⟩ = .ok s ∧ t = .schema s := by
  have hnonempty : items.isEmpty = false := by simpa using nonempty
  cases part with
  | fields =>
    have alike : ∀ schemas, Arguments.shape ⟨"object", items⟩ 0 = .ok schemas ↔ Arguments.shape ⟨"shape", items⟩ 0 = .ok schemas :=
      fun schemas => (Arguments.shape_eq_ok_iff _ 0 schemas).trans (Arguments.shape_eq_ok_iff ⟨"shape", items⟩ 0 schemas).symm
    simp only [Root.build, Member.build, hnonempty]
    exact Arguments.made_schema_iff (Arguments.shape · 0) (Schema.shape (.ofTag .object)) alike t
  | items =>
    have alike : ∀ s, Arguments.schema ⟨"array", items⟩ 0 = .ok s ↔ Arguments.schema ⟨"of", items⟩ 0 = .ok s :=
      fun s => (Arguments.schema_eq_ok_iff _ 0 s).trans (Arguments.schema_eq_ok_iff ⟨"of", items⟩ 0 s).symm
    simp only [Root.build, Member.build, hnonempty]
    exact Arguments.made_schema_iff (Arguments.schema · 0) (Schema.of (.ofTag .array)) alike t

end Root.HasPart

/-- A term that is no literal that counts as nothing, and no list of nothing but such. -/
def Term.Counts : Term → Prop
  | .list items => items.all Term.isFalsy = false
  | t => t.isFalsy = false

/-- A list of something else is no literal either. -/
theorem Term.Counts.isFalsy {t : Term} (h : t.Counts) : t.isFalsy = false := by
  cases t with
  | list items => rfl
  | _ => exact h

namespace Compiler

variable (c : Compiler)

/-! ## Agreement -/

/-- Two compilations give the same schema, or both fail. -/
inductive Agree : Except CompileError Term → Except CompileError Term → Prop where
  | schema (s : Schema) : Agree (.ok (.schema s)) (.ok (.schema s))
  | failure (e e' : CompileError) : Agree (.error e) (.error e')

/-- What agrees with a compilation that gives a schema gives it too. -/
theorem Agree.eq_schema {s : Schema} {y : Except CompileError Term} (h : Agree (.ok (.schema s)) y) : y = .ok (.schema s) := by
  cases h
  rfl

/-- A compilation gives the schemas that have a property, and nothing else. -/
def Gives (x : Except CompileError Term) (p : Schema → Prop) : Prop :=
  ∀ t, x = .ok t ↔ ∃ s, p s ∧ t = .schema s

/-- Compilations that give the schemas with one property agree. -/
theorem Gives.agree {x y : Except CompileError Term} {p : Schema → Prop} (hx : Gives x p) (hy : Gives y p) : Agree x y := by
  cases x with
  | ok t =>
    obtain ⟨s, hs, rfl⟩ := (hx t).mp rfl
    rw [(hy _).mpr ⟨s, hs, rfl⟩]
    exact .schema s
  | error e =>
    cases y with
    | ok t =>
      obtain ⟨s, hs, rfl⟩ := (hy t).mp rfl
      cases (hx _).mpr ⟨s, hs, rfl⟩
    | error e' => exact .failure e e'

/-! ## Arguments that count -/

/-- A term that counts is passed. -/
theorem passed_ne_nil {t : Term} (h : t.Counts) : passed t ≠ [] := by
  cases t with
  | list items =>
    have hpassed : passed (.list items) = items := if_neg (Bool.eq_false_iff.mp h)
    rw [hpassed]
    rintro rfl
    cases h
  | _ => exact List.cons_ne_nil _ _

/-- A term after one that counts makes a list that counts. -/
theorem counts_append (acc value : Term) (h : acc.Counts) : (append acc value).Counts := by
  cases acc with
  | list items =>
    show (items ++ [value]).all Term.isFalsy = false
    rw [List.all_append, show items.all Term.isFalsy = false from h]
    rfl
  | _ =>
    show (Term.isFalsy _ && _) = false
    rw [h.isFalsy]
    rfl

/-- What a call or a chain of calls gives counts. -/
theorem counts_of_invoke (empty : c.registry = Registry.empty) (items : List Node) (receiver : Option Term) {t : Term}
    (h : (c.invoke items receiver).result = .ok t) : t.Counts := by
  refine c.of_invoke empty ?_ counts_append items receiver h
  rintro t (⟨s, rfl⟩ | ⟨ref, rfl⟩)
  · exact rfl
  · exact rfl

/-- What does not count as nothing does not compile to a literal that does. -/
theorem isFalsy_of_compile (empty : c.registry = Registry.empty) {n : Node} (counts : ¬n.toJson.IsFalsy) {t : Term}
    (h : (c.compile n).result = .ok t) : t.isFalsy = false := by
  have hliteral : (Term.literal n.toJson).isFalsy = false := Bool.eq_false_iff.mpr fun h => counts (.of_literal h)
  cases n with
  | seq items =>
    by_cases hinv : Node.isInvocation c.marker items = true
    · rw [c.compile_invocation hinv] at h
      exact (c.counts_of_invoke empty items none h).isFalsy
    · rw [compile, if_neg hinv, Traced.result_bind] at h
      obtain ⟨terms, -, h⟩ := bind_eq_ok_iff.mp h
      cases h
      rfl
  | map fields =>
    rw [result_compile_map] at h
    obtain ⟨terms, -, rfl⟩ := map_eq_ok_iff.mp h
    rfl
  | pattern p =>
    cases h
    rfl
  | _ =>
    cases h
    exact hliteral

/-- What does not count as nothing is passed. -/
theorem argumentsOf_ne_nil (empty : c.registry = Registry.empty) {binding : Binding} (noPattern : binding.takesPattern = false)
    {n : Node} (counts : ¬n.toJson.IsFalsy) {items : List Term} (h : c.argumentsOf binding [n] = .ok items) : items ≠ [] := by
  unfold argumentsOf at h
  rw [if_neg (by simp [noPattern])] at h
  obtain ⟨t, ht, rfl⟩ := map_eq_ok_iff.mp h
  apply passed_ne_nil
  by_cases hinv : Node.isInvocation c.marker [n] = true
  · rw [if_pos hinv] at ht
    exact c.counts_of_invoke empty [n] none ht
  · rw [if_neg hinv] at ht
    obtain ⟨terms, hterms, rfl⟩ := map_eq_ok_iff.mp ht
    obtain ⟨t, more, hn, -, rfl⟩ := List.forall₂_cons_left_iff.mp (mapM_eq_ok_iff.mp hterms)
    show (t.isFalsy && _) = false
    rw [c.isFalsy_of_compile empty counts hn]
    rfl

/-! ## A root builder with a part -/

/-- A root builder that is given a part, and one that is called alone before a call of the member for the part, agree, if the part
does not count as nothing. -/
theorem compile_root_or_member (empty : c.registry = Registry.empty) {r : Root} {tag : Tag} {member : Member}
    (part : r.HasPart tag member) {n : Node} (counts : ¬n.toJson.IsFalsy) :
    Agree (c.compile (.seq [.str (c.marker ++ r.name), n])).result
      (c.compile (.seq [.seq [.str (c.marker ++ r.name)], .seq [.str (c.marker ++ member.name), n]])).result := by
  have hroot : (c.compile (.seq [.seq [.str (c.marker ++ r.name)]])).result = .ok (.schema (.ofTag tag)) := by
    rw [c.result_compile_root r (c.leavesAlone_of_empty empty r.name), part.build_nil]
    rfl
  have hnamed : Member.named? (Schema.ofTag tag).tag member.name = some member := by
    rw [show (Schema.ofTag tag).tag = tag from Kind.tag_ofTag tag]
    exact part.named?
  have hchain := c.result_compile_call empty hroot hnamed [n]
  rw [c.argumentsOf_eq_of_not_takesPattern (part.takesPattern _) (show (Binding.root r).takesPattern = false from rfl)] at hchain
  refine Gives.agree (p := fun s => ∃ items, c.argumentsOf (.root r) [n] = .ok items ∧
    member.build (.ofTag tag) ⟨member.name, items⟩ = .ok s) (fun t => ?_) fun t => ?_
  · rw [c.result_compile_rootCall empty, bind_eq_ok_iff]
    simp only [mapError_eq_ok_iff]
    constructor
    · rintro ⟨items, hitems, h⟩
      obtain ⟨s, hs, rfl⟩ := (part.build_eq_ok_iff (c.argumentsOf_ne_nil empty rfl counts hitems) t).mp h
      exact ⟨s, ⟨items, hitems, hs⟩, rfl⟩
    · rintro ⟨s, ⟨items, hitems, hs⟩, rfl⟩
      exact ⟨items, hitems, (part.build_eq_ok_iff (c.argumentsOf_ne_nil empty rfl counts hitems) _).mpr ⟨s, hs, rfl⟩⟩
  · refine (Eq.congr_left hchain).trans (bind_eq_ok_iff.trans ?_)
    simp only [mapError_eq_ok_iff]
    constructor
    · rintro ⟨items, hitems, h⟩
      obtain ⟨s, hs, rfl⟩ := map_eq_ok_iff.mp h
      exact ⟨s, ⟨items, hitems, hs⟩, rfl⟩
    · rintro ⟨s, ⟨items, hitems, hs⟩, rfl⟩
      exact ⟨items, hitems, map_eq_ok_iff.mpr ⟨s, hs, rfl⟩⟩

/-! ## Mappings in mappings -/

/-- A description describes a schema when it compiles to a term that does. -/
def Means (n : Node) (s : Schema) : Prop :=
  ∃ t, (c.compile n).result = .ok t ∧ t.Describes s

/-- Fields describe schemas under the same keys. -/
def FieldsMean (fields : List (String × Node)) (schemas : List (String × Schema)) : Prop :=
  ∃ terms, c.FieldsCompile fields terms ∧ FieldsDescribe terms schemas

/-- A chain of a call of objects and a call with their fields. -/
def objectChain (fields : List (String × Node)) : Node :=
  .seq [.seq [.str (c.marker ++ "object")], .seq [.str (c.marker ++ "shape"), .map fields]]

/-- The first field describes a schema, and so do the others. -/
theorem fieldsMean_cons_iff {key : String} {n : Node} {fields : List (String × Node)} {schemas : List (String × Schema)} :
    c.FieldsMean ((key, n) :: fields) schemas ↔
      ∃ s more, c.Means n s ∧ c.FieldsMean fields more ∧ schemas = (key, s) :: more := by
  constructor
  · rintro ⟨terms, hterms, hdescribe⟩
    obtain ⟨⟨key', t⟩, more, ⟨rfl, hn⟩, hmore, rfl⟩ := List.forall₂_cons_left_iff.mp hterms
    cases hdescribe with
    | cons head tail => exact ⟨_, _, ⟨t, hn, head⟩, ⟨more, hmore, tail⟩, rfl⟩
  · rintro ⟨s, more, ⟨t, hn, head⟩, ⟨terms, hfields, tail⟩, rfl⟩
    exact ⟨(key, t) :: terms, .cons ⟨rfl, hn⟩ hfields, .cons head tail⟩

/-- A mapping describes objects with the fields that it describes. -/
theorem means_map_iff {fields : List (String × Node)} {s : Schema} :
    c.Means (.map fields) s ↔ ∃ schemas, c.FieldsMean fields schemas ∧ s = Schema.objectOf schemas := by
  rw [Means, result_compile_map]
  simp only [map_eq_ok_iff, c.compileFields_eq_ok_iff]
  constructor
  · rintro ⟨_, ⟨terms, hterms, rfl⟩, hdescribe⟩
    cases hdescribe with
    | shape h => exact ⟨_, ⟨terms, hterms, h⟩, rfl⟩
  · rintro ⟨schemas, ⟨terms, hterms, h⟩, rfl⟩
    exact ⟨_, ⟨terms, hterms, rfl⟩, .shape h⟩

/-- So does the chain. -/
theorem means_objectChain_iff (empty : c.registry = Registry.empty) {fields : List (String × Node)} {s : Schema} :
    c.Means (c.objectChain fields) s ↔ ∃ schemas, c.FieldsMean fields schemas ∧ s = Schema.objectOf schemas := by
  have marked : Text.occursIn c.marker (c.marker ++ "object") = true := (Text.occursIn_iff _ _).mpr ⟨"", "object", by simp⟩
  have hcalls : (c.compile (c.objectChain fields)).result =
      c.called none ⟨c.marker ++ "object", []⟩ >>=
        [⟨c.shapeMarker, [.map fields]⟩].foldlM fun acc call => c.called (some acc) call :=
    c.result_compile_calls ⟨c.marker ++ "object", []⟩ [⟨c.shapeMarker, [.map fields]⟩] marked
      (by simp [Node.isInvocation, Node.headsInvocation])
  have hobject : c.called none ⟨c.marker ++ "object", []⟩ = .ok (.schema (.ofTag .object)) :=
    c.called_root .object (c.leavesAlone_of_empty empty _) none
  have hcompile : (c.compile (c.objectChain fields)).result = (c.compileFields fields).result >>= withShape (.ofTag .object) := by
    rw [hcalls, hobject]
    show List.foldlM (fun acc call => c.called (some acc) call) _ _ = _
    rw [List.foldlM_cons, c.called_shape (c.leavesAlone_of_empty empty _) rfl]
    simp only [List.foldlM_nil, bind_pure]
  rw [Means, hcompile]
  simp only [bind_eq_ok_iff, c.compileFields_eq_ok_iff, withShape_eq_ok_iff]
  constructor
  · rintro ⟨_, ⟨terms, hterms, schemas, h, rfl⟩, hdescribe⟩
    cases hdescribe
    exact ⟨schemas, ⟨terms, hterms, h⟩, rfl⟩
  · rintro ⟨schemas, ⟨terms, hterms, h⟩, rfl⟩
    exact ⟨_, ⟨terms, hterms, schemas, h, rfl⟩, .schema _⟩

mutual

/-- A field that is the same but for mappings in it, or itself, that are written as chains. -/
inductive Respelled : Node → Node → Prop where
  | same (n : Node) : Respelled n n
  | fields {fields fields' : List (String × Node)} (h : FieldsRespelled fields fields') : Respelled (.map fields) (.map fields')
  | chain {fields fields' : List (String × Node)} (h : FieldsRespelled fields fields') :
      Respelled (.map fields) (c.objectChain fields')

/-- Fields that are so, under the same keys. -/
inductive FieldsRespelled : List (String × Node) → List (String × Node) → Prop where
  | nil : FieldsRespelled [] []
  | cons {key : String} {n n' : Node} {fields fields' : List (String × Node)} (head : Respelled n n')
      (tail : FieldsRespelled fields fields') : FieldsRespelled ((key, n) :: fields) ((key, n') :: fields')

end

variable {c}

mutual

/-- Such a field describes the same schemas. -/
theorem Respelled.means_iff (empty : c.registry = Registry.empty) {n n' : Node} : c.Respelled n n' → ∀ s, c.Means n s ↔ c.Means n' s
  | .same _, _ => Iff.rfl
  | .fields h, s => by
    rw [c.means_map_iff, c.means_map_iff]
    simp only [h.fieldsMean_iff empty]
  | .chain h, s => by
    rw [c.means_map_iff, c.means_objectChain_iff empty]
    simp only [h.fieldsMean_iff empty]

/-- So do such fields. -/
theorem FieldsRespelled.fieldsMean_iff (empty : c.registry = Registry.empty) {fields fields' : List (String × Node)} :
    c.FieldsRespelled fields fields' → ∀ schemas, c.FieldsMean fields schemas ↔ c.FieldsMean fields' schemas
  | .nil, _ => Iff.rfl
  | .cons head tail, schemas => by
    rw [c.fieldsMean_cons_iff, c.fieldsMean_cons_iff]
    simp only [head.means_iff empty, tail.fieldsMean_iff empty]

end

variable (c)

/-- A bare mapping gives objects that have to be there, with the fields that it describes. -/
theorem gives_transform_map (empty : c.registry = Registry.empty) (fields : List (String × Node)) :
    Gives (c.transform (.map fields)).result fun s =>
      ∃ schemas, c.FieldsMean fields schemas ∧ s = (Schema.objectOf schemas).required none := by
  intro t
  rw [c.result_transform_map fun name _ => c.leavesAlone_of_empty empty name]
  simp only [mapError_eq_ok_iff, bind_eq_ok_iff, c.compileFields_eq_ok_iff, requiredObject_eq_ok_iff]
  constructor
  · rintro ⟨terms, hterms, schemas, h, rfl⟩
    exact ⟨_, ⟨schemas, ⟨terms, hterms, h⟩, rfl⟩, rfl⟩
  · rintro ⟨s, ⟨schemas, ⟨terms, hterms, h⟩, rfl⟩, rfl⟩
    exact ⟨terms, hterms, schemas, h, rfl⟩

/-! ## All spellings -/

/-- Without custom builders, the spellings of a description give the same schema, or all fail: the builder of objects given a mapping,
and called alone before a call with the mapping; the builder of arrays given the items, and called alone before a call with the items,
unless these count as nothing; and a bare mapping whose fields hold mappings, and one where some of these are written as chains. -/
theorem spellings_agree (empty : c.registry = Registry.empty) :
    (∀ fields, Agree (c.compile (.seq [.str (c.marker ++ "object"), .map fields])).result
      (c.compile (.seq [.seq [.str (c.marker ++ "object")], .seq [.str (c.marker ++ "shape"), .map fields]])).result) ∧
    (∀ n, (Term.literal n.toJson).isFalsy = false →
      Agree (c.compile (.seq [.str (c.marker ++ "array"), n])).result
        (c.compile (.seq [.seq [.str (c.marker ++ "array")], .seq [.str (c.marker ++ "of"), n]])).result) ∧
    ∀ fields fields', c.FieldsRespelled fields fields' →
      Agree (c.transform (.map fields)).result (c.transform (.map fields')).result := by
  refine ⟨fun fields => ?_, fun n counts => ?_, fun fields fields' h => ?_⟩
  · exact c.compile_root_or_member empty .fields (n := .map fields) nofun
  · refine c.compile_root_or_member empty .items fun falsy => ?_
    rw [falsy.isFalsy] at counts
    cases counts
  · have hgives := c.gives_transform_map empty fields'
    simp only [← h.fieldsMean_iff empty] at hgives
    exact (c.gives_transform_map empty fields).agree hgives

namespace SpellingsWitness

open SmallCase (compiler)

/-- A mapping with mappings in a mapping. -/
def person : List (String × Node) :=
  [("home", .map [("city", .seq [.seq [.str "do.string"]]), ("place", .map [("east", .seq [.seq [.str "do.number"]])])])]

/-- The mapping with a chain in a chain. -/
def personInChains : List (String × Node) :=
  [("home", compiler.objectChain
    [("city", .seq [.seq [.str "do.string"]]), ("place", compiler.objectChain [("east", .seq [.seq [.str "do.number"]])])])]

/-- The fields that both describe. -/
def personFields : List (String × Schema) :=
  [("home", .objectOf [("city", .ofTag .string), ("place", .objectOf [("east", .ofTag .number)])])]

theorem compile_person_in_chains :
    ((compiler.compile (.seq [.str "do.object", .map person])).result = .ok (.schema (.objectOf personFields)) ∧
      (compiler.compile (.seq [.seq [.str "do.object"], .seq [.str "do.shape", .map person]])).result =
        .ok (.schema (.objectOf personFields))) ∧
    ((Term.literal (Node.map person).toJson).isFalsy = false ∧
      (compiler.compile (.seq [.str "do.array", .map person])).result =
        .ok (.schema ((Schema.ofTag .array).of (.objectOf personFields))) ∧
      (compiler.compile (.seq [.seq [.str "do.array"], .seq [.str "do.of", .map person]])).result =
        .ok (.schema ((Schema.ofTag .array).of (.objectOf personFields)))) ∧
    compiler.FieldsRespelled person personInChains ∧
    (compiler.transform (.map person)).result = .ok (.schema ((Schema.objectOf personFields).required none)) ∧
    (compiler.transform (.map personInChains)).result = .ok (.schema ((Schema.objectOf personFields).required none)) := by
  have respelled : compiler.FieldsRespelled person personInChains :=
    .cons (.chain (.cons (.same _) (.cons (.chain (.cons (.same _) .nil)) .nil))) .nil
  have hobject : (compiler.compile (.seq [.str "do.object", .map person])).result = .ok (.schema (.objectOf personFields)) := rfl
  have harray : (compiler.compile (.seq [.str "do.array", .map person])).result =
      .ok (.schema ((Schema.ofTag .array).of (.objectOf personFields))) := rfl
  have hperson : (compiler.transform (.map person)).result = .ok (.schema ((Schema.objectOf personFields).required none)) := rfl
  obtain ⟨objects, arrays, mappings⟩ := compiler.spellings_agree rfl
  have counts : (Term.literal (Node.map person).toJson).isFalsy = false := rfl
  refine ⟨⟨hobject, ?_⟩, ⟨counts, harray, ?_⟩, respelled, hperson, ?_⟩
  · exact Agree.eq_schema (hobject ▸ objects person)
  · exact Agree.eq_schema (harray ▸ arrays (.map person) counts)
  · exact Agree.eq_schema (hperson ▸ mappings person personInChains respelled)

end SpellingsWitness

end Compiler

end Schemata
