import Mathlib.Data.List.Forall2
import Schemata.Proofs.Schema.Place

/-!
# What a check reads

A check reads the value it is given, and of the object around it the members that references name first. Items see the object around
their array, and the fields of an object see that object in its place, so the members that a schema can read of the object around it
are those its own sets name, and those the schemas of its items name (`Schema.lookups`). Of an object, a check reads the declared
fields and the members that the fields look up, and nothing else (`Schema.check_object_congr`).
-/

namespace Schemata

/-- The members of the object around the value that a set names: those its references start at. -/
def Membership.names (set : Membership) : List String :=
  set.values.filterMap fun
    | .value _ => none
    | .reference r => r.segments.head?

namespace Schema

/-- The members of the object around the value that a schema looks up: those its sets name, and of an array those that the schema
of its items looks up. -/
def lookups (s : Schema) : List String :=
  match s with
  | ⟨kind, _, _, _, _, _, oneOfSet, notOneOfSet⟩ =>
    oneOfSet.elim [] Membership.names ++ notOneOfSet.elim [] Membership.names ++
      match kind with
      | .array (some element) => lookups element
      | _ => []
termination_by structural s

/-- The members that a check of fields reads of the object they belong to: the declared ones, and those that the fields look up. -/
def reads (fields : Mapping Schema) : List String :=
  fields.keys ++ fields.flatMap fun (_, field) => field.lookups

variable {s : Schema} {key : String}

/-- What a schema looks up, set by set, and then its items. -/
theorem lookups_eq (s : Schema) :
    s.lookups = s.oneOfSet.elim [] Membership.names ++ s.notOneOfSet.elim [] Membership.names ++ s.element?.elim [] lookups := by
  obtain ⟨kind, _, _, _, _, _, _, _⟩ := s
  rcases kind with _ | _ | _ | _ | _ | _ | _ <;> rfl

/-- What the first set names is looked up. -/
theorem mem_lookups_of_oneOf {set : Membership} (hs : s.oneOfSet = some set) (h : key ∈ set.names) : key ∈ s.lookups := by
  rw [lookups_eq, hs]
  exact List.mem_append_left _ (List.mem_append_left _ h)

/-- What the second set names is looked up. -/
theorem mem_lookups_of_notOneOf {set : Membership} (hs : s.notOneOfSet = some set) (h : key ∈ set.names) : key ∈ s.lookups := by
  rw [lookups_eq, hs]
  exact List.mem_append_left _ (List.mem_append_right _ h)

/-- What the items look up is looked up. -/
theorem mem_lookups_of_element {element : Schema} (hk : s.kind = .array (some element)) (h : key ∈ element.lookups) :
    key ∈ s.lookups := by
  rw [lookups_eq, element?, hk]
  exact List.mem_append_right _ h

end Schema

/-- The member beside a value under a key, if there is an object around the value and it has one. -/
def beside (parent : Option Members) (key : String) : Option Json :=
  parent.bind (Mapping.get? · key)

/-! ## References and sets -/

/-- What segments lead to from a value, once the first segment of a reference has led to it. -/
def Reference.beyond : List String → Json → Option Json
  | [], v => some v
  | rest, .obj inner => follow rest inner
  | _, _ => none

/-- A reference is followed from the member that its first segment names. -/
theorem Reference.resolve_eq {r : Reference} {first : String} {rest : List String} (h : r.segments = first :: rest)
    (parent : Option Members) : r.resolve parent = (beside parent first).bind (beyond rest) := by
  unfold resolve beside
  rw [h, Option.bind_assoc]
  congr 1
  funext members
  cases rest with
  | nil => cases hm : Mapping.get? members first <;> simp [follow, beyond, hm]
  | cons next rest =>
    rw [follow]
    · cases hm : Mapping.get? members first with
      | none => rfl
      | some v => cases v <;> rfl
    · exact nofun

section

variable {parent parent' : Option Members}

/-- What a reference stands for depends on the object around the value only by the member named first. -/
theorem Reference.resolve_congr {r : Reference}
    (h : ∀ key, r.segments.head? = some key → beside parent key = beside parent' key) : r.resolve parent = r.resolve parent' := by
  cases hs : r.segments with
  | nil => simp [resolve, hs, follow]
  | cons first rest => rw [resolve_eq hs, resolve_eq hs, h first (by rw [hs]; rfl)]

namespace Membership

variable {set : Membership}

/-- The entries of a set stand for the same values in objects that agree on the members it names. -/
theorem resolve_congr (h : ∀ key ∈ set.names, beside parent key = beside parent' key) :
    ∀ entry ∈ set.values, entry.resolve parent = entry.resolve parent' := by
  rintro (v | r) hm
  · rfl
  · exact Reference.resolve_congr fun key hkey => h key (List.mem_filterMap.mpr ⟨_, hm, hkey⟩)

/-- The same values are in a set. -/
theorem contains_congr (h : ∀ key ∈ set.names, beside parent key = beside parent' key) (v : Json) :
    set.contains v parent = set.contains v parent' := by
  rw [Bool.eq_iff_iff, contains, contains, List.any_eq_true, List.any_eq_true]
  exact exists_congr fun entry => and_congr_right fun hm => by rw [resolve_congr h entry hm]

/-- The entries are the same in words, those that lead nowhere too. -/
theorem listed_congr (h : ∀ key ∈ set.names, beside parent key = beside parent' key) :
    set.listed parent = set.listed parent' := by
  unfold listed
  rw [List.map_congr_left fun entry hm => by rw [resolve_congr h entry hm]]

end Membership

namespace Schema

variable {s : Schema}

/-- A check against the first set says the same. -/
theorem oneOfViolation?_congr (h : ∀ key ∈ s.lookups, beside parent key = beside parent' key) (v : Json) :
    s.oneOfViolation? v parent = s.oneOfViolation? v parent' := by
  unfold oneOfViolation?
  cases hs : s.oneOfSet with
  | none => rfl
  | some set =>
    have hset := fun key hkey => h key (mem_lookups_of_oneOf hs hkey)
    simp only [membershipViolation, Membership.contains_congr hset, Membership.listed_congr hset]

/-- A check against the second set says the same. -/
theorem notOneOfViolation?_congr (h : ∀ key ∈ s.lookups, beside parent key = beside parent' key) (v : Json) :
    s.notOneOfViolation? v parent = s.notOneOfViolation? v parent' := by
  unfold notOneOfViolation?
  cases hs : s.notOneOfSet with
  | none => rfl
  | some set =>
    have hset := fun key hkey => h key (mem_lookups_of_notOneOf hs hkey)
    simp only [membershipViolation, Membership.contains_congr hset, Membership.listed_congr hset]

/-- What is wrong with a value itself is the same in objects that agree on what the schema looks up. -/
theorem ownViolation?_congr (h : ∀ key ∈ s.lookups, beside parent key = beside parent' key) (v : Option Json) :
    s.ownViolation? v parent = s.ownViolation? v parent' := by
  simp only [ownViolation?, bodyViolation?, oneOfViolation?_congr h, notOneOfViolation?_congr h]

end Schema

end

/-! ## Places -/

/-- Values picked from two lists, entry by entry, are the same if they are the same at entries that belong together. -/
theorem filterMap_eq_of_forall₂ {α β γ : Type} {R : α → β → Prop} {f : α → Option γ} {g : β → Option γ} {xs : List α} {ys : List β}
    (h : List.Forall₂ R xs ys) (hfg : ∀ x ∈ xs, ∀ y, R x y → f x = g y) : xs.filterMap f = ys.filterMap g := by
  induction h with
  | nil => rfl
  | cons hr _ ih =>
    rw [List.filterMap_cons, List.filterMap_cons, hfg _ List.mem_cons_self _ hr,
      ih fun x hx => hfg x (List.mem_cons_of_mem _ hx)]

namespace Place

/-- Two places are alike: the same value under the same schema, in objects that agree on what the schema looks up. -/
structure Alike (p p' : Place) : Prop where
  schema : p.schema = p'.schema
  value : p.value = p'.value
  beside : ∀ key ∈ p.schema.lookups, beside p.parent key = beside p'.parent key

variable {p p' : Place}

/-- The places below alike ones are alike: the fields of an object see that object, and what the items look up is looked up by the
array. -/
theorem Alike.parts (h : p.Alike p') : List.Forall₂ (fun a b => a.1 = b.1 ∧ a.2.Alike b.2) p.parts p'.parts := by
  obtain ⟨s, v, parent⟩ := p
  obtain ⟨_, _, parent'⟩ := p'
  obtain ⟨rfl, rfl, hbeside⟩ := h
  unfold Place.parts
  dsimp only
  split
  · exact List.forall₂_same.mpr fun _ _ => ⟨rfl, rfl, rfl, fun _ _ => rfl⟩
  · rename_i hk
    simp only [List.forall₂_map_left_iff, List.forall₂_map_right_iff]
    exact List.forall₂_same.mpr fun _ _ => ⟨rfl, rfl, rfl, fun key hkey => hbeside key (Schema.mem_lookups_of_element hk hkey)⟩
  · exact .nil

/-- The same is said of two places of one schema that are the same by themselves, if the same is said of alike places below. -/
theorem violation?_congr (hs : p.schema = p'.schema) (hown : p.ownViolation? = p'.ownViolation?)
    (hparts : List.Forall₂ (fun a b => a.1 = b.1 ∧ a.2.Alike b.2) p.parts p'.parts)
    (hbelow : ∀ entry ∈ p.parts, ∀ q, entry.2.Alike q → entry.2.violation? = q.violation?) : p.violation? = p'.violation? := by
  have h : p.partViolations = p'.partViolations :=
    filterMap_eq_of_forall₂ hparts fun entry hm entry' hr => by
      dsimp only
      rw [hr.1, hbelow entry hm _ hr.2]
  rw [Place.violation?_eq, Place.violation?_eq p', hown, h, hs]

/-- The same is said of alike places, to the last detail. -/
theorem Alike.violation?_eq (h : p.Alike p') : p.violation? = p'.violation? := by
  -- The other place stays general: below arrays the objects around differ as well.
  induction p using Place.induct generalizing p' with
  | step p ih =>
    refine violation?_congr h.schema ?_ h.parts fun entry hm _ => ih entry hm
    rw [Place.ownViolation?, Place.ownViolation?, ← h.schema, ← h.value]
    exact Schema.ownViolation?_congr h.beside p.value

end Place

/-! ## Objects -/

namespace Schema

variable {s : Schema} {fields : Mapping Schema}

/-- The fields of two objects are alike where the objects agree on what the fields read. -/
theorem forall₂_alike_fields (hk : s.kind = .object fields) {d d' : Members}
    (agree : ∀ key ∈ reads fields, Mapping.get? d key = Mapping.get? d' key) (parent parent' : Option Members) :
    List.Forall₂ (fun a b => a.1 = b.1 ∧ a.2.Alike b.2) (Place.mk s (some (.obj d)) parent).parts
      (Place.mk s (some (.obj d')) parent').parts := by
  simp only [Place.parts, hk, List.forall₂_map_left_iff, List.forall₂_map_right_iff]
  refine List.forall₂_same.mpr fun entry hm => ⟨rfl, rfl, ?_, fun key hkey => ?_⟩
  · exact agree entry.1 (List.mem_append_left _ (List.mem_map_of_mem hm))
  · exact agree key (List.mem_append_right _ (List.mem_flatMap.mpr ⟨entry, hm, hkey⟩))

/-- An object is right by itself where there are no rules and no sets to meet. -/
theorem ownViolation?_object (hk : s.kind = .object fields) (hrules : s.rules = []) (hone : s.oneOfSet = none)
    (hnot : s.notOneOfSet = none) (d : Members) (parent : Option Members) : s.ownViolation? (some (.obj d)) parent = none := by
  have htag : s.tag = .object := by rw [tag, hk, Kind.tag]
  simp [ownViolation?, bodyViolation?, kindViolation?, emptyViolation?, oneOfViolation?, notOneOfViolation?, ruleViolation?, hrules,
    hone, hnot, htag, Tag.admits]

/-- Of an object that has no rules and no sets of its own to meet, a check reads the declared fields and the members that the
fields look up: two objects that agree on these get the same answer, whatever objects are around them. -/
theorem check_object_congr (hk : s.kind = .object fields) (hrules : s.rules = []) (hone : s.oneOfSet = none)
    (hnot : s.notOneOfSet = none) {d d' : Members} (agree : ∀ key ∈ reads fields, Mapping.get? d key = Mapping.get? d' key) :
    s.check (some (.obj d)) = s.check (some (.obj d')) ∧
      ∀ parent parent', s.violation? (some (.obj d)) parent = s.violation? (some (.obj d')) parent' := by
  have h : ∀ parent parent', s.violation? (some (.obj d)) parent = s.violation? (some (.obj d')) parent' := fun parent parent' => by
    have hparts := forall₂_alike_fields hk agree parent parent'
    refine Place.violation?_congr ?_ ?_ hparts fun _ _ _ => Place.Alike.violation?_eq
    · rfl
    · rw [Place.ownViolation?, Place.ownViolation?, ownViolation?_object hk hrules hone hnot,
        ownViolation?_object hk hrules hone hnot]
  exact ⟨h none none, h⟩

end Schema

namespace LocalityWitness

/-- The fields of an account: other names, which must not repeat the name, and a mail, which has to be one of the contacts. -/
def accountFields : Mapping Schema :=
  [("aliases", (Schema.ofTag .array).of ((Schema.ofTag .string).notOneOf [.reference ⟨"name"⟩] none)),
    ("mail", (Schema.ofTag .string).oneOf [.reference ⟨"contact.mail"⟩, .reference ⟨"contact.backup"⟩] none)]

/-- An account, which has to be there. -/
def account : Schema :=
  { Schema.ofTag .object with kind := .object accountFields, isRequired := true }

/-- An account whose alias is its name and whose mail is no contact of it. -/
def members : Members :=
  [("aliases", .arr [.str "ann"]), ("contact", .obj [("mail", .str "ann@home")]), ("mail", .str "ann@work"), ("name", .str "ann")]

/-- The same account with members that nothing declares or looks up. -/
def withStrangers : Members :=
  ("admin", .bool true) :: members ++ [("nickname", .str "ann")]

/-- Strangers in an account make no difference. -/
theorem check_withStrangers :
    account.kind = .object accountFields ∧ account.rules = [] ∧ account.oneOfSet = none ∧ account.notOneOfSet = none ∧
      (∀ key ∈ Schema.reads accountFields, Mapping.get? members key = Mapping.get? withStrangers key) ∧
      account.check (some (.obj members)) = account.check (some (.obj withStrangers)) ∧
      ∀ parent parent', account.violation? (some (.obj members)) parent = account.violation? (some (.obj withStrangers)) parent' :=
  have hreads : Schema.reads accountFields = ["aliases", "mail", "name", "contact", "contact"] := by decide
  have hagree : ∀ key ∈ Schema.reads accountFields, Mapping.get? members key = Mapping.get? withStrangers key := by
    rw [hreads]
    simp only [List.forall_mem_cons]
    exact ⟨rfl, rfl, rfl, rfl, rfl, nofun⟩
  ⟨rfl, rfl, rfl, rfl, hagree, Schema.check_object_congr rfl rfl rfl rfl hagree⟩

/-- What is said of the account tells of contacts that are there and of one that is not. -/
example :
    (account.check (some (.obj withStrangers))).map (fun e => (e.flatten.map fun part => part.message)) =
      some ["Object validation failed", "Array validation failed", "Must not be one of: \"ann\"",
        "Must be one of: \"ann@home\", undefined"] := by
  decide

end LocalityWitness

end Schemata
