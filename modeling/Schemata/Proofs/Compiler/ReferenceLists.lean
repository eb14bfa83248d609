import Schemata.Proofs.Compiler.Continuation

/-!
# Lists that a reference leads

A list of values whose first entry is a reference is a chain: what comes after the reference is put in a list with it, and a further
reference begins anew. `Gathered` is what such a chain has come to, `afterElement_node` is one step of it, and `foldlM_node` the whole.
A text at the end of the list is the message of the set that the list describes, and so is a text after the list
(`compile_led_set_with_message`): it is one more element of the chain.
-/

namespace Schemata

/-- An entry of a list of values, as it is written: a scalar, or a reference to a field. -/
inductive Entry where
  | value (n : Node)
  | reference (path : String)

namespace Entry

variable (c : Compiler)

/-- The node that writes an entry. -/
def node : Entry → Node
  | .value n => n
  | .reference path => .seq [.str (c.marker ++ "ref"), .str path]

/-- The entry of a set that is written. -/
def allowed : Entry → Allowed
  | .value n => .value n.toJson
  | .reference path => .reference ⟨path⟩

/-- The entry is a scalar or has a path, and the marker is nowhere in its text. -/
def Plain : Entry → Prop
  | .value n => n.IsScalar ∧ ∀ text, n = .str text → Text.occursIn c.marker text = false
  | .reference path => path ≠ "" ∧ Text.occursIn c.marker path = false

/-- The entry stays in a list as it is written: a scalar that does not name the shape, or a path without the marker. -/
def Kept : Entry → Prop
  | .value n => n.IsScalar ∧ n ≠ .str c.shapeMarker
  | .reference path => path ≠ "" ∧ Text.occursIn c.marker path = false

variable {c}

/-- The name that continues a chain with a shape has the marker in it. -/
theorem Plain.kept {e : Entry} (plain : e.Plain c) : e.Kept c := by
  cases e with
  | reference path => exact plain
  | value n =>
    refine ⟨plain.1, ?_⟩
    rintro rfl
    have hmark : Text.occursIn c.marker c.shapeMarker = true :=
      (Text.occursIn_iff _ _).mpr ⟨"", "shape", by simp [Compiler.shapeMarker]⟩
    rw [plain.2 _ rfl] at hmark
    cases hmark

end Entry

/-- What a list that a reference leads has come to: the last reference, and the values after it. -/
structure Gathered where
  reference : Reference
  values : List Json

namespace Gathered

/-- The term for it: a reference with nothing after it is no list yet. -/
def term (g : Gathered) : Term :=
  if g.values.isEmpty then .reference g.reference else .list (.reference g.reference :: g.values.map Term.literal)

/-- One more entry: a further reference takes the place of all that is there. -/
def add (g : Gathered) : Entry → Gathered
  | .value n => { g with values := g.values ++ [n.toJson] }
  | .reference path => ⟨⟨path⟩, []⟩

/-- A value is put after what is there. -/
theorem append_term (g : Gathered) (n : Node) : Compiler.append g.term (.literal n.toJson) = (g.add (.value n)).term := by
  obtain ⟨r, values⟩ := g
  cases values <;> simp [term, add, Compiler.append]

/-- All of it is passed. -/
theorem passed_term (g : Gathered) :
    Compiler.passed g.term = (Allowed.reference g.reference :: g.values.map Allowed.value).map Allowed.term := by
  obtain ⟨r, values⟩ := g
  cases values <;> simp [term, Compiler.passed, Term.isFalsy, Allowed.term, Function.comp_def]

/-- Values are put after what is there, in order. -/
theorem foldl_add_values (g : Gathered) (values : List Node) :
    (values.map Entry.value).foldl add g = { g with values := g.values ++ values.map Node.toJson } := by
  induction values generalizing g with
  | nil => simp
  | cons n rest ih =>
    rw [List.map_cons, List.foldl_cons, ih]
    simp [add]

/-- The last reference and the values after it are all that is left of a list. -/
theorem foldl_add (g : Gathered) (earlier : List Entry) (path : String) (values : List Node) :
    (earlier ++ .reference path :: values.map Entry.value).foldl add g = ⟨⟨path⟩, values.map Node.toJson⟩ := by
  rw [List.foldl_append, List.foldl_cons, foldl_add_values]
  rfl

end Gathered

namespace Compiler

variable (c : Compiler)

/-! ## A list step by step -/

/-- A reference is called the same way whatever is before it. -/
theorem result_invoke_ref (empty : c.registry = Registry.empty) {path : String} (kept : (Entry.reference path).Kept c)
    (receiver : Option Term) :
    (c.invoke [.str (c.marker ++ "ref"), .str path] receiver).result = .ok (.reference ⟨path⟩) := by
  have hfound : (memberOf? receiver "ref" <|> (Root.named? "ref").map .root) = some (.root .ref) := by
    have hmember : memberOf? receiver "ref" = none := memberOf?_root receiver .ref
    rw [hmember]
    rfl
  have hargs : c.argumentsOf (.root .ref) [.str path] = .ok [.literal (.str path)] := by
    refine c.argumentsOf_scalars rfl (by simp [Node.IsScalar]) ⟨_, List.mem_cons_self, ?_⟩ ?_
    · simpa [Node.toJson, Term.isFalsy] using kept.1
    · rintro ⟨text, more, h, hmark⟩
      cases h
      rw [kept.2] at hmark
      cases hmark
  rw [result_invoke_str, c.resolve_marked empty hfound]
  show (c.argumentsOf (.root .ref) [.str path] >>= _) = _
  rw [hargs]
  show (if path = "" then Except.error _ else Except.ok _).mapError _ = _
  rw [if_neg kept.1]
  rfl

/-- One step: the element of a chain that writes an entry adds it. -/
theorem afterElement_node (empty : c.registry = Registry.empty) {e : Entry} (kept : e.Kept c) (g : Gathered) :
    c.afterElement g.term (e.node c) = .ok (g.add e).term := by
  cases e with
  | value n =>
    rw [← g.append_term]
    cases n with
    | null | bool | num => rfl
    | str text =>
      have hshape : text ≠ c.shapeMarker := by
        rintro rfl
        exact kept.2 rfl
      exact if_neg hshape
    | _ => exact kept.1.elim
  | reference path => exact c.result_invoke_ref empty kept (some g.term)

/-- The whole: the elements that write entries add them in order. -/
theorem foldlM_node (empty : c.registry = Registry.empty) {entries : List Entry} (kept : ∀ e ∈ entries, e.Kept c)
    (g : Gathered) : (entries.map (Entry.node c)).foldlM c.afterElement g.term = .ok (entries.foldl Gathered.add g).term := by
  induction entries generalizing g with
  | nil => rfl
  | cons e rest ih =>
    rw [List.map_cons, List.foldlM_cons, c.afterElement_node empty (kept e List.mem_cons_self)]
    exact ih (fun e h => kept e (List.mem_cons_of_mem _ h)) (g.add e)

/-! ## Sets of such lists -/

/-- A list that a reference leads, with further entries after it, passes what is left of all of them. -/
theorem argumentsOf_led_by_reference (empty : c.registry = Registry.empty) {binding : Binding}
    (noPattern : binding.takesPattern = false) (path : String) (entries further : List Entry)
    (kept : ∀ e ∈ .reference path :: (entries ++ further), e.Kept c) :
    c.argumentsOf binding (.seq ((.reference path :: entries).map (Entry.node c)) :: further.map (Entry.node c)) =
      .ok (Compiler.passed ((entries ++ further).foldl Gathered.add ⟨⟨path⟩, []⟩).term) := by
  have hinv : Node.isInvocation c.marker
      (.seq ((.reference path :: entries).map (Entry.node c)) :: further.map (Entry.node c)) = true :=
    (Text.occursIn_iff c.marker (c.marker ++ "ref")).mpr ⟨"", "ref", by simp⟩
  have hlist : (c.invoke (.seq ((.reference path :: entries).map (Entry.node c)) :: further.map (Entry.node c)) none).result =
      .ok ((entries ++ further).foldl Gathered.add ⟨⟨path⟩, []⟩).term := by
    rw [result_invoke_seq, List.map_cons, Entry.node, result_invoke_seq, c.result_invoke_ref empty (kept _ List.mem_cons_self)]
    -- The list is a chain that heads another, so the further entries go on from where its own entries end.
    show ((entries.map (Entry.node c)).foldlM c.afterElement (Gathered.term ⟨⟨path⟩, []⟩) >>= _) = _
    rw [← List.foldlM_append, ← List.map_append, c.foldlM_node empty fun e h => kept e (List.mem_cons_of_mem _ h)]
  unfold argumentsOf
  rw [if_neg (by simp [noPattern]), if_pos hinv, hlist]
  rfl

/-- A call of a builder of sets with a list of entries. -/
def setCall (name : String) (entries : List Entry) : Node :=
  .seq [.str (c.marker ++ name), .seq (entries.map (Entry.node c))]

variable {first rest : List Node} {s : Schema} {earlier : List Entry} {path : String} {values : List Node}

/-- What is passed of a list that a reference leads is its last reference and the values after it. -/
theorem argumentsOf_entries (empty : c.registry = Registry.empty) {binding : Binding} (noPattern : binding.takesPattern = false)
    (led : ∀ e ∈ earlier.head?, ∃ p, e = .reference p)
    (plain : ∀ e ∈ earlier ++ .reference path :: values.map Entry.value, e.Plain c) :
    c.argumentsOf binding [.seq ((earlier ++ .reference path :: values.map Entry.value).map (Entry.node c))] =
      .ok ((Allowed.reference ⟨path⟩ :: values.map fun n => .value n.toJson).map Allowed.term) := by
  obtain ⟨p, more, hentries⟩ : ∃ p more, earlier ++ .reference path :: values.map Entry.value = .reference p :: more := by
    cases earlier with
    | nil => exact ⟨path, _, rfl⟩
    | cons e earlier =>
      obtain ⟨p, rfl⟩ := led e rfl
      exact ⟨p, _, rfl⟩
  have hgathered : more.foldl Gathered.add ⟨⟨p⟩, []⟩ = ⟨⟨path⟩, values.map Node.toJson⟩ := by
    have hfold := Gathered.foldl_add ⟨⟨p⟩, []⟩ earlier path values
    rw [hentries] at hfold
    exact hfold
  rw [hentries] at plain ⊢
  have kept : ∀ e ∈ .reference p :: (more ++ []), e.Kept c := by
    rw [List.append_nil]
    exact fun e he => (plain e he).kept
  have hargs := c.argumentsOf_led_by_reference empty noPattern p more [] kept
  rw [List.append_nil, hgathered, Gathered.passed_term, List.map_map] at hargs
  exact hargs

/-- A builder of sets makes a set of what a reference leads; a text at its end is the message of the set. -/
theorem compile_set (empty : c.registry = Registry.empty)
    (hchain : (c.compile (.seq (.seq first :: rest))).result = .ok (.schema s)) {member : Member}
    (hm : Member.named? s.tag member.name = some member) {refined : List Allowed → Option String → Schema}
    (hbuild : ∀ args, member.build s args = Member.membership args >>= fun set => .ok (refined set.1 set.2))
    {raw : List Node} {r : Reference} {entries : List Allowed}
    (hargs : c.argumentsOf (.member member s) raw = .ok ((Allowed.reference r :: entries).map Allowed.term)) :
    (c.compile (.seq (.seq first :: (rest ++ [.seq (.str (c.marker ++ member.name) :: raw)])))).result =
      .ok (.schema (refined (.reference r :: (splitMessage entries).1) (splitMessage entries).2)) := by
  rw [c.result_compile_call empty hchain hm, hargs]
  show ((member.build s _).map Term.schema).mapError CompileError.build = _
  rw [hbuild, Member.membership_led_by_reference]
  rfl

/-- A builder of sets makes a set of the last reference and the values after it; a text at their end is the message of the set. -/
theorem compile_setCall (empty : c.registry = Registry.empty)
    (hchain : (c.compile (.seq (.seq first :: rest))).result = .ok (.schema s))
    (led : ∀ e ∈ earlier.head?, ∃ p, e = .reference p)
    (plain : ∀ e ∈ earlier ++ .reference path :: values.map Entry.value, e.Plain c) {member : Member}
    (hm : Member.named? s.tag member.name = some member) (noPattern : (Binding.member member s).takesPattern = false)
    {refined : List Allowed → Option String → Schema}
    (hbuild : ∀ args, member.build s args = Member.membership args >>= fun set => .ok (refined set.1 set.2)) :
    (c.compile (.seq (.seq first :: (rest ++
      [c.setCall member.name (earlier ++ .reference path :: values.map Entry.value)])))).result =
        .ok (.schema (refined (.reference ⟨path⟩ :: (splitMessage (values.map fun n => .value n.toJson)).1)
          (splitMessage (values.map fun n => .value n.toJson)).2)) :=
  c.compile_set empty hchain hm hbuild (c.argumentsOf_entries empty noPattern led plain)

/-- A list that a reference leads describes a set with entries of the list, in order, the last of which are the last reference of the
list and every value after it; what is kept of the entries before a further reference is left open. A text at the end of the values is
no entry but the message of the set; without one, the set has no message. -/
theorem compile_reference_led_set (empty : c.registry = Registry.empty)
    (hchain : (c.compile (.seq (.seq first :: rest))).result = .ok (.schema s)) (earlier : List Entry) (path : String)
    (values : List Node) (led : ∀ e ∈ earlier.head?, ∃ p, e = .reference p)
    (plain : ∀ e ∈ earlier ++ .reference path :: values.map Entry.value, e.Plain c) :
    ∃ kept : List Allowed, kept.Sublist (earlier.map Entry.allowed) ∧
      (c.compile (.seq (.seq first :: (rest ++
        [c.setCall "oneOf" (earlier ++ .reference path :: values.map Entry.value)])))).result =
          .ok (.schema (s.oneOf (kept ++ .reference ⟨path⟩ :: (splitMessage (values.map fun n => .value n.toJson)).1)
            (splitMessage (values.map fun n => .value n.toJson)).2)) ∧
      (c.compile (.seq (.seq first :: (rest ++
        [c.setCall "notOneOf" (earlier ++ .reference path :: values.map Entry.value)])))).result =
          .ok (.schema (s.notOneOf (kept ++ .reference ⟨path⟩ :: (splitMessage (values.map fun n => .value n.toJson)).1)
            (splitMessage (values.map fun n => .value n.toJson)).2)) := by
  refine ⟨[], List.nil_sublist _, ?_, ?_⟩
  · have hm : Member.named? s.tag Member.oneOf.name = some .oneOf := by cases s.tag <;> rfl
    exact c.compile_setCall empty hchain led plain hm rfl fun _ => rfl
  · have hm : Member.named? s.tag Member.notOneOf.name = some .notOneOf := by cases s.tag <;> rfl
    exact c.compile_setCall empty hchain led plain hm rfl fun _ => rfl

namespace ReferenceListsWitness

open SmallCase (compiler)

/-- A chain that describes texts, with a call of a builder of sets after it. -/
def withSet (name : String) (entries : List Entry) : Node :=
  .seq [.seq [.str "do.string"], compiler.setCall name entries]

/-- Entries without the marker. -/
theorem plain_entries : ∀ e ∈ [Entry.reference "a", .reference "b", .value .null, .value (.str "x")], e.Plain compiler := by
  intro e he
  simp only [List.mem_cons, List.not_mem_nil, or_false] at he
  rcases he with rfl | rfl | rfl | rfl
  · exact ⟨by decide, by decide⟩
  · exact ⟨by decide, by decide⟩
  · exact ⟨trivial, nofun⟩
  · refine ⟨trivial, ?_⟩
    rintro text ⟨⟩
    decide

theorem compile_sets_of_lists :
    (compiler.compile (withSet "oneOf" [.reference "a", .value (.str "x"), .value .null])).result =
      .ok (.schema ((Schema.ofTag .string).oneOf [.reference ⟨"a"⟩, .value (.str "x"), .value .null] none)) ∧
    (compiler.compile (withSet "notOneOf" [.reference "a", .value .null, .value (.str "x")])).result =
      .ok (.schema ((Schema.ofTag .string).notOneOf [.reference ⟨"a"⟩, .value .null] (some "x"))) ∧
    ∃ kept : List Allowed, kept.Sublist [.reference ⟨"a"⟩, .value (.str "x")] ∧
      (compiler.compile (withSet "oneOf" [.reference "a", .value (.str "x"), .reference "b", .value .null])).result =
        .ok (.schema ((Schema.ofTag .string).oneOf (kept ++ [.reference ⟨"b"⟩, .value .null]) none)) := by
  have hchain : (compiler.compile (.seq [.seq [.str "do.string"]])).result = .ok (.schema (.ofTag .string)) := rfl
  have plain : ∀ entries : List Entry, entries ⊆ [Entry.reference "a", .reference "b", .value .null, .value (.str "x")] →
      ∀ e ∈ entries, e.Plain compiler := fun _ h e he => plain_entries e (h he)
  obtain ⟨kept₁, hkept₁, h₁, -⟩ := compiler.compile_reference_led_set rfl hchain [] "a" [.str "x", .null] nofun
    (plain _ (by simp))
  obtain ⟨kept₂, hkept₂, -, h₂⟩ := compiler.compile_reference_led_set rfl hchain [] "a" [.null, .str "x"] nofun
    (plain _ (by simp))
  obtain ⟨kept₃, hkept₃, h₃, -⟩ := compiler.compile_reference_led_set rfl hchain [.reference "a", .value (.str "x")] "b" [.null]
    (by simp) (plain _ (by simp))
  cases hkept₁
  cases hkept₂
  exact ⟨h₁, h₂, kept₃, hkept₃, h₃⟩

/-- A further reference, and a text at the end, are not put with the entries before them. -/
theorem lists_that_lose_entries :
    (compiler.registry = Registry.empty ∧
      (compiler.compile (.seq [.seq [.str "do.string"]])).result = .ok (.schema (.ofTag .string))) ∧
    (∀ e ∈ [Entry.reference "a", .reference "b"], e.Plain compiler) ∧
    (compiler.compile (withSet "oneOf" [.reference "a", .reference "b"])).result =
      .ok (.schema ((Schema.ofTag .string).oneOf [.reference ⟨"b"⟩] none)) ∧
    (compiler.compile (withSet "oneOf" [.reference "a", .reference "b"])).result ≠
      .ok (.schema ((Schema.ofTag .string).oneOf [.reference ⟨"a"⟩, .reference ⟨"b"⟩] none)) ∧
    (∀ e ∈ [Entry.reference "a", .value (.str "x")], e.Plain compiler) ∧
    (compiler.compile (withSet "oneOf" [.reference "a", .value (.str "x")])).result =
      .ok (.schema ((Schema.ofTag .string).oneOf [.reference ⟨"a"⟩] (some "x"))) ∧
    (compiler.compile (withSet "oneOf" [.reference "a", .value (.str "x")])).result ≠
      .ok (.schema ((Schema.ofTag .string).oneOf [.reference ⟨"a"⟩, .value (.str "x")] none)) := by
  have hfurther : (compiler.compile (withSet "oneOf" [.reference "a", .reference "b"])).result =
      .ok (.schema ((Schema.ofTag .string).oneOf [.reference ⟨"b"⟩] none)) := rfl
  have htext : (compiler.compile (withSet "oneOf" [.reference "a", .value (.str "x")])).result =
      .ok (.schema ((Schema.ofTag .string).oneOf [.reference ⟨"a"⟩] (some "x"))) := rfl
  refine ⟨⟨rfl, rfl⟩, fun e he => plain_entries e ?_, hfurther, ?_, fun e he => plain_entries e ?_, htext, ?_⟩
  · exact (by simp : [Entry.reference "a", .reference "b"] ⊆ _) he
  · rw [hfurther]
    simp [Schema.oneOf]
  · exact (by simp : [Entry.reference "a", .value (.str "x")] ⊆ _) he
  · rw [htext]
    simp [Schema.oneOf]

end ReferenceListsWitness

/-! ## Sets with a message -/

/-- A call of a builder of sets with a list that a reference leads, and a text after the list. -/
def messageCall (name path : String) (values : List Node) (text : String) : Node :=
  .seq [.str (c.marker ++ name), .seq (.seq [.str (c.marker ++ "ref"), .str path] :: values), .str text]

/-- The reference, the values and the text are passed one after another. -/
theorem argumentsOf_entries_and_text (empty : c.registry = Registry.empty) {binding : Binding}
    (noPattern : binding.takesPattern = false) (named : path ≠ "" ∧ Text.occursIn c.marker path = false)
    (scalar : ∀ v ∈ values, v.IsScalar ∧ v ≠ .str c.shapeMarker) {text : String} (noShape : text ≠ c.shapeMarker) :
    c.argumentsOf binding [.seq (.seq [.str (c.marker ++ "ref"), .str path] :: values), .str text] =
      .ok ((Allowed.reference ⟨path⟩ :: (values.map (fun n => Allowed.value n.toJson) ++ [.value (.str text)])).map Allowed.term) := by
  have kept : ∀ e ∈ .reference path :: (values.map Entry.value ++ [.value (.str text)]), e.Kept c := by
    intro e he
    simp only [List.mem_cons, List.mem_append, List.mem_map, List.not_mem_nil, or_false] at he
    rcases he with rfl | ⟨v, hv, rfl⟩ | rfl
    · exact named
    · exact scalar v hv
    · exact ⟨trivial, fun h => noShape (Node.str.inj h)⟩
  have hnodes : (values.map Entry.value).map (Entry.node c) = values := by simp [Function.comp_def, Entry.node]
  have hgathered : (values.map Entry.value ++ [Entry.value (.str text)]).foldl Gathered.add ⟨⟨path⟩, []⟩ =
      ⟨⟨path⟩, values.map Node.toJson ++ [Json.str text]⟩ := by
    rw [List.foldl_append, Gathered.foldl_add_values]
    rfl
  have hargs := c.argumentsOf_led_by_reference empty noPattern path (values.map Entry.value) [.value (.str text)] kept
  rw [List.map_cons, hnodes, hgathered, Gathered.passed_term, List.map_append, List.map_map] at hargs
  exact hargs

/-- A builder of sets makes a set of the reference and the values, and the text is the message of the set. -/
theorem compile_messageCall (empty : c.registry = Registry.empty)
    (hchain : (c.compile (.seq (.seq first :: rest))).result = .ok (.schema s))
    (named : path ≠ "" ∧ Text.occursIn c.marker path = false)
    (scalar : ∀ v ∈ values, v.IsScalar ∧ v ≠ .str c.shapeMarker) {text : String} (noShape : text ≠ c.shapeMarker)
    {member : Member} (hm : Member.named? s.tag member.name = some member)
    (noPattern : (Binding.member member s).takesPattern = false) {refined : List Allowed → Option String → Schema}
    (hbuild : ∀ args, member.build s args = Member.membership args >>= fun set => .ok (refined set.1 set.2)) :
    (c.compile (.seq (.seq first :: (rest ++ [c.messageCall member.name path values text])))).result =
      .ok (.schema (refined (.reference ⟨path⟩ :: values.map fun n => .value n.toJson) (some text))) := by
  have hargs := c.argumentsOf_entries_and_text empty noPattern named scalar noShape
  have hset := c.compile_set empty hchain hm hbuild hargs
  rw [splitMessage_concat] at hset
  exact hset

/-- A list that a reference leads, with a text after it, describes a set of the reference and the values after it, in order, with the
text as its message: whatever scalars the values are and whatever the text is, as long as none of them names the shape. -/
theorem compile_led_set_with_message (empty : c.registry = Registry.empty)
    (hchain : (c.compile (.seq (.seq first :: rest))).result = .ok (.schema s))
    (named : path ≠ "" ∧ Text.occursIn c.marker path = false)
    (scalar : ∀ v ∈ values, v.IsScalar ∧ v ≠ .str c.shapeMarker) {text : String} (noShape : text ≠ c.shapeMarker) :
    (c.compile (.seq (.seq first :: (rest ++ [c.messageCall "oneOf" path values text])))).result =
      .ok (.schema (s.oneOf (.reference ⟨path⟩ :: values.map fun n => .value n.toJson) (some text))) ∧
    (c.compile (.seq (.seq first :: (rest ++ [c.messageCall "notOneOf" path values text])))).result =
      .ok (.schema (s.notOneOf (.reference ⟨path⟩ :: values.map fun n => .value n.toJson) (some text))) := by
  constructor
  · have hm : Member.named? s.tag Member.oneOf.name = some .oneOf := by cases s.tag <;> rfl
    exact c.compile_messageCall empty hchain named scalar noShape hm rfl fun _ => rfl
  · have hm : Member.named? s.tag Member.notOneOf.name = some .notOneOf := by cases s.tag <;> rfl
    exact c.compile_messageCall empty hchain named scalar noShape hm rfl fun _ => rfl

namespace MessageWitness

open SmallCase (compiler)

/-- A chain that describes texts, with a set of a reference, null and a marked text, and its message. -/
def withMessage (name text : String) : Node :=
  .seq [.seq [.str "do.string"], compiler.messageCall name "password" [.null, .str "do.string"] text]

theorem compile_sets_with_messages :
    ((compiler.compile (.seq [.seq [.str "do.string"]])).result = .ok (.schema (.ofTag .string)) ∧
      ∀ v ∈ [Node.null, .str "do.string"], v.IsScalar ∧ v ≠ .str compiler.shapeMarker) ∧
    (compiler.compile (withMessage "oneOf" "do.match")).result =
      .ok (.schema ((Schema.ofTag .string).oneOf [.reference ⟨"password"⟩, .value .null, .value (.str "do.string")]
        (some "do.match"))) ∧
    (compiler.compile (withMessage "notOneOf" "")).result =
      .ok (.schema ((Schema.ofTag .string).notOneOf [.reference ⟨"password"⟩, .value .null, .value (.str "do.string")]
        (some ""))) := by
  have hchain : (compiler.compile (.seq [.seq [.str "do.string"]])).result = .ok (.schema (.ofTag .string)) := rfl
  have named : "password" ≠ "" ∧ Text.occursIn compiler.marker "password" = false := ⟨by decide, by decide⟩
  have hmarked : "do.string" ≠ compiler.shapeMarker := by decide
  have scalar : ∀ v ∈ [Node.null, .str "do.string"], v.IsScalar ∧ v ≠ .str compiler.shapeMarker := by
    intro v hv
    simp only [List.mem_cons, List.not_mem_nil, or_false] at hv
    rcases hv with rfl | rfl
    · exact ⟨trivial, nofun⟩
    · exact ⟨trivial, fun h => hmarked (Node.str.inj h)⟩
  have hmatch : "do.match" ≠ compiler.shapeMarker := by decide
  have hempty : "" ≠ compiler.shapeMarker := by decide
  exact ⟨⟨hchain, scalar⟩, (compiler.compile_led_set_with_message rfl hchain named scalar hmatch).1,
    (compiler.compile_led_set_with_message rfl hchain named scalar hempty).2⟩

end MessageWitness

end Compiler

end Schemata
