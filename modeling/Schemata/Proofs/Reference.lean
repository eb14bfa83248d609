import Schemata.Proofs.Text.Segments
import Schemata.Reference

/-!
# Following paths

A reference stands for the value that its segments lead to, one after another, each a key of the object reached so far
(`follow_eq_some_iff`). Following one path after another is following the first, and then the second from the object that the first
leads to (`follow_append`).
-/

namespace Schemata

/-- The members of a document that is an object. -/
def Json.asMembers? : Json → Option Members
  | .obj members => some members
  | _ => none

theorem Json.asMembers?_eq_some_iff {v : Json} {members : Members} : v.asMembers? = some members ↔ v = .obj members := by
  cases v <;> simp [asMembers?]

namespace Reference

/-- The values that one comes to from a value by some keys: each key is one of the object reached so far, and gives the next value. -/
structure Leads (start : Json) (keys : List String) (reached : List Json) : Prop where
  length_eq : reached.length = keys.length
  step : ∀ (i : Nat) (key : String), keys[i]? = some key →
    ∃ members : Members, (start :: reached)[i]? = some (Json.obj members) ∧ members.get? key = reached[i]?

variable {start v : Json} {key : String} {keys : List String} {reached : List Json} {members : Members}

/-- Without keys one stays at the start. -/
theorem leads_nil_iff : Leads start [] reached ↔ reached = [] := by
  constructor
  · exact fun h => List.eq_nil_of_length_eq_zero h.length_eq
  · rintro rfl
    exact ⟨rfl, nofun⟩

/-- The first key is one of the start, and the others lead on from its value. -/
theorem leads_cons_iff :
    Leads start (key :: keys) reached ↔
      ∃ (members : Members) (next : Json) (rest : List Json),
        start = .obj members ∧ members.get? key = some next ∧ reached = next :: rest ∧ Leads next keys rest := by
  constructor
  · rintro ⟨hlength, hstep⟩
    obtain ⟨members, hstart, hkey⟩ := hstep 0 key rfl
    rcases reached with _ | ⟨next, rest⟩
    · cases hlength
    · exact ⟨members, next, rest, Option.some.inj hstart, hkey, rfl, Nat.succ.inj hlength, fun i => hstep (i + 1)⟩
  · rintro ⟨members, next, rest, rfl, hkey, rfl, hlength, hstep⟩
    refine ⟨congrArg Nat.succ hlength, fun i key' hk => ?_⟩
    cases i with
    | zero =>
      cases hk
      exact ⟨members, rfl, hkey⟩
    | succ i => exact hstep i key' hk

/-! ## Following keys -/

/-- Before other keys, a key has to lead to an object. -/
theorem follow_cons (key : String) (hkeys : keys ≠ []) (members : Members) :
    follow (key :: keys) members = ((members.get? key).bind Json.asMembers?).bind (follow keys) := by
  rw [follow]
  · rcases members.get? key with _ | _ | _ | _ | _ | _ | _ <;> rfl
  · exact hkeys

/-- What keys lead to is the last value that one comes to by them. -/
theorem follow_eq_some_iff :
    follow keys members = some v ↔ ∃ reached, Leads (.obj members) keys reached ∧ reached.getLast? = some v := by
  induction keys generalizing members with
  | nil => simp [follow, leads_nil_iff]
  | cons key keys ih =>
    by_cases hkeys : keys = []
    · subst hkeys
      simp only [follow, leads_cons_iff, leads_nil_iff, Json.obj.injEq]
      constructor
      · exact fun h => ⟨[v], ⟨members, v, [], rfl, h, rfl, rfl⟩, rfl⟩
      · rintro ⟨_, ⟨_, next, _, rfl, hnext, rfl, rfl⟩, hlast⟩
        cases hlast
        exact hnext
    · rw [follow_cons key hkeys]
      simp only [Option.bind_eq_some_iff, Json.asMembers?_eq_some_iff, ih, leads_cons_iff, Json.obj.injEq]
      constructor
      · rintro ⟨inner, ⟨next, hnext, rfl⟩, rest, hrest, hlast⟩
        refine ⟨.obj inner :: rest, ⟨members, .obj inner, rest, rfl, hnext, rfl, hrest⟩, ?_⟩
        rw [List.getLast?_cons, hlast]
        rfl
      · rintro ⟨reached, ⟨_, next, rest, rfl, hnext, rfl, hrest⟩, hlast⟩
        -- There are more keys, so the next value is an object, and not the last.
        obtain ⟨key', more, rfl⟩ := List.exists_cons_of_ne_nil hkeys
        obtain ⟨inner, _, _, rfl, -, rfl, -⟩ := leads_cons_iff.mp hrest
        exact ⟨inner, ⟨_, hnext, rfl⟩, _, hrest, by simpa [List.getLast?_cons_cons] using hlast⟩

/-- More keys are followed from the object that the first ones lead to. -/
theorem follow_append {more : List String} (hkeys : keys ≠ []) (hmore : more ≠ []) (members : Members) :
    follow (keys ++ more) members = ((follow keys members).bind Json.asMembers?).bind (follow more) := by
  induction keys generalizing members with
  | nil => exact absurd rfl hkeys
  | cons key keys ih =>
    rw [List.cons_append, follow_cons key (by simp [hmore])]
    by_cases hrest : keys = []
    · subst hrest
      rfl
    · rw [follow_cons key hrest]
      cases (members.get? key).bind Json.asMembers? with
      | none => rfl
      | some inner => exact ih hrest inner

/-- Two paths with a point between them lead to what the second leads to in the object that the first leads to. A path leads to a
value if and only if its parts between the points, empty ones too, are in turn keys of the object reached so far; the value is the
last one reached. -/
theorem resolve_stepwise (parent : Option Members) :
    (∀ p q : String,
      resolve ⟨p ++ "." ++ q⟩ parent = resolve ⟨q⟩ ((resolve ⟨p⟩ parent).bind Json.asMembers?)) ∧
      ∀ (path : String) (v : Json), resolve ⟨path⟩ parent = some v ↔
        ∃ members keys reached, parent = some members ∧ Text.Separates '.' keys path ∧ Leads (.obj members) keys reached ∧
          reached.getLast? = some v := by
  constructor
  · intro p q
    have hsegments : segments ⟨p ++ "." ++ q⟩ = segments ⟨p⟩ ++ segments ⟨q⟩ := Text.segments_append '.' p q
    have hp := (Text.separates_segments '.' p).nonempty
    have hq := (Text.separates_segments '.' q).nonempty
    cases parent with
    | none => rfl
    | some members =>
      show follow (segments ⟨p ++ "." ++ q⟩) members = _
      rw [hsegments]
      exact follow_append hp hq members
  · intro path v
    simp only [resolve, segments, Option.bind_eq_some_iff, follow_eq_some_iff, ← Text.segments_eq_iff]
    constructor
    · rintro ⟨members, hparent, reached, hreached, hlast⟩
      exact ⟨members, _, reached, hparent, rfl, hreached, hlast⟩
    · rintro ⟨members, _, reached, hparent, rfl, hreached, hlast⟩
      exact ⟨members, hparent, reached, hreached, hlast⟩

end Reference

end Schemata
