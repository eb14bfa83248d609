import Mathlib.Data.List.Infix
import Schemata.Json.Overlay
import Schemata.Proofs.Mapping

/-!
# What shows at a path

Where one document lies over another and only tables are on the way to the end of a path, in both, the value there is that of the upper
one, or else that of the lower one (`at?_overlay`). A document with one value at the end of a path, and nothing else, has nothing at
the end of another path (`at?_nest_of_apart`).
-/

namespace Schemata.Json

/-- The value at the end of a path of keys. -/
def at? (v : Json) (path : List String) : Option Json :=
  path.foldlM member? v

/-- On the way to the end of a path there are only tables: objects with each key once. -/
def TablesAlong : List String → Json → Prop
  | [], _ => True
  | key :: rest, v =>
    ∃ members : Members, v = .obj members ∧ members.Ordered ∧ ∀ w, members.get? key = some w → TablesAlong rest w

variable {path : List String} {upper lower v : Json}

theorem at?_cons (key : String) (rest : List String) (v : Json) : v.at? (key :: rest) = (v.member? key).bind (·.at? rest) := rfl

/-- At the end of a path there is something if the document is an object whose member of the first key has it at the end of the
rest. -/
theorem at?_cons_eq_some_iff {key : String} {rest : List String} {w : Json} :
    v.at? (key :: rest) = some w ↔
      ∃ members : Members, v = .obj members ∧ ∃ x, members.get? key = some x ∧ x.at? rest = some w := by
  rw [at?_cons, Option.bind_eq_some_iff]
  cases v <;> simp [member?]

/-- At the end of a path of one key there is the value of the member. -/
theorem at?_singleton (members : Members) (key : String) : (Json.obj members).at? [key] = members.get? key := by
  rw [at?_cons, member?]
  exact Option.bind_fun_some _

/-- What is at the end of a path is at the end of its rest in the member of the first key. -/
theorem at?_of_get? {members : Members} {key : String} {rest : List String} {x w : Json} (hx : members.get? key = some x)
    (h : (Json.obj members).at? (key :: rest) = some w) : x.at? rest = some w := by
  rw [at?_cons, member?, hx] at h
  exact h

/-! ## Members over others -/

/-- Members laid over others in order are in order. -/
theorem ordered_membersOver (upper : Members) {lower : Members} (h : lower.Ordered) : Mapping.Ordered (membersOver upper lower) := by
  induction upper generalizing lower with
  | nil => exact h
  | cons entry rest ih => exact ih (h.insert _ _)

/-- Under a key of the upper members there is what lies there over what is below; under any other what is below. -/
theorem get?_membersOver {upper : Members} (distinct : upper.keys.Nodup) (lower : Members) (key : String) :
    Mapping.get? (membersOver upper lower) key =
      match upper.get? key, lower.get? key with
      | some v, some w => some (overlay v w)
      | some v, none => some v
      | none, w => w := by
  induction upper generalizing lower with
  | nil => rfl
  | cons entry rest ih =>
    obtain ⟨k, v⟩ := entry
    obtain ⟨hk, hrest⟩ := List.nodup_cons.mp distinct
    rw [membersOver, ih hrest, Mapping.get?_cons]
    by_cases hkey : k = key
    · subst hkey
      rw [(Mapping.get?_eq_none_iff rest k).mpr hk, Mapping.get?_insert_self, if_pos rfl]
      cases lower.get? k <;> rfl
    · rw [Mapping.get?_insert_of_ne _ _ hkey, if_neg hkey]

/-! ## Documents over others -/

/-- Of documents with only tables on the way, one over the other has only tables on the way. -/
theorem TablesAlong.overlay (hu : TablesAlong path upper) (hl : TablesAlong path lower) : TablesAlong path (overlay upper lower) := by
  induction path generalizing upper lower with
  | nil => trivial
  | cons key rest ih =>
    obtain ⟨members, rfl, hm, hmembers⟩ := hu
    obtain ⟨base, rfl, hb, hbase⟩ := hl
    refine ⟨_, rfl, ordered_membersOver members hb, fun w hw => ?_⟩
    rw [get?_membersOver hm.nodup_keys] at hw
    cases hv : members.get? key with
    | none =>
      rw [hv] at hw
      exact hbase w hw
    | some v =>
      cases hv' : base.get? key with
      | none =>
        rw [hv, hv'] at hw
        exact hmembers w (hv.trans hw)
      | some v' =>
        rw [hv, hv'] at hw
        cases hw
        exact ih (hmembers v hv) (hbase v' hv')

/-- The value at the end of a path is that of the upper document, or else that of the lower one, if the upper one is not an object over
an object. -/
theorem at?_overlay (hu : TablesAlong path upper) (hl : TablesAlong path lower)
    (whole : ∀ v w, upper.at? path = some v → lower.at? path = some w → v.overlay w = v) :
    (overlay upper lower).at? path = (upper.at? path).or (lower.at? path) := by
  induction path generalizing upper lower with
  | nil => exact congrArg some (whole upper lower rfl rfl)
  | cons key rest ih =>
    obtain ⟨members, rfl, hm, hmembers⟩ := hu
    obtain ⟨base, rfl, hb, hbase⟩ := hl
    have hget := get?_membersOver hm.nodup_keys base key
    simp only [at?_cons, overlay_obj_obj, member?] at whole ⊢
    rw [hget]
    cases hv : members.get? key with
    | none => simp
    | some v =>
      cases hw : base.get? key with
      | none => simp
      | some w =>
        rw [hv, hw] at whole
        exact ih (hmembers v hv) (hbase w hw) whole

/-! ## A value at the end of a path -/

theorem at?_nest_self (path : List String) (v : Json) : (nest path v).at? path = some v := by
  induction path with
  | nil => rfl
  | cons key rest ih =>
    show ((nest (key :: rest) v).member? key).bind (·.at? rest) = some v
    simpa [nest, member?] using ih

/-- Where a document has one value, and a path leads to another place, there is nothing at its end. -/
theorem at?_nest_of_apart {other : List String} (h : ¬ path <+: other) (h' : ¬ other <+: path) (v : Json) :
    (nest path v).at? other = none := by
  induction path generalizing other with
  | nil => exact absurd List.nil_prefix h
  | cons key rest ih =>
    cases other with
    | nil => exact absurd List.nil_prefix h'
    | cons key' rest' =>
      show ((nest (key :: rest) v).member? key').bind (·.at? rest') = none
      by_cases hkey : key = key'
      · subst hkey
        rw [List.prefix_cons_inj] at h h'
        simpa [nest, member?] using ih h h'
      · simp [nest, member?, hkey]

/-- On the way to the place of the value, and to any place beside it, there are only tables. -/
theorem tablesAlong_nest {other : List String} (h : path <+: other → path = other) (v : Json) : TablesAlong other (nest path v) := by
  induction path generalizing other with
  | nil =>
    cases h List.nil_prefix
    trivial
  | cons key rest ih =>
    cases other with
    | nil => trivial
    | cons key' rest' =>
      refine ⟨[(key, nest rest v)], rfl, List.pairwise_singleton _ _, fun w hw => ?_⟩
      obtain ⟨rfl, rfl⟩ : key = key' ∧ nest rest v = w := by simpa using hw
      exact ih fun hfront => List.tail_eq_of_cons_eq (h ((List.prefix_cons_inj key).mpr hfront))

end Schemata.Json
