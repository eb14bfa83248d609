import Schemata.Library.Member
import Schemata.Proofs.Outcome

/-!
# Sets from arguments

What the builders of sets make of their arguments. Arguments that a literal leads are all entries. Of arguments that a reference
leads, a text in the last place is the message of the set, and the others are its entries (`membership_led_by_reference`).
-/

namespace Schemata

/-- The argument that stands for an entry. -/
def Allowed.term : Allowed → Term
  | .value v => .literal v
  | .reference r => .reference r

/-- A text at the end of some entries is a message for the others. -/
def splitMessage (entries : List Allowed) : List Allowed × Option String :=
  match entries.getLast? with
  | some (.value (.str t)) => (entries.dropLast, some t)
  | _ => (entries, none)

theorem splitMessage_concat (entries : List Allowed) (t : String) :
    splitMessage (entries ++ [.value (.str t)]) = (entries, some t) := by
  simp [splitMessage]

namespace Arguments

/-- Such arguments, in order, stand for their entries. -/
theorem mapM_entry_term (args : Arguments) (position : Nat) (entries : List Allowed) :
    (entries.map Allowed.term).mapM (args.entry position) = .ok entries := by
  rw [mapM_eq_ok_iff, List.forall₂_map_left_iff, List.forall₂_same]
  intro e _
  cases e <;> rfl

variable {name : String} {t : Term} {more : List Term}

/-- The arguments up to a place are read one by one, unless a list leads them. -/
theorem allowedUntil_cons (unlisted : ∀ items, t ≠ .list items) {stop : Nat} (hstop : stop ≤ (t :: more).length) :
    (⟨name, t :: more⟩ : Arguments).allowedUntil 0 stop =
      ((t :: more).take stop).mapM ((⟨name, t :: more⟩ : Arguments).entry 0) := by
  cases t with
  | list items => exact (unlisted items rfl).elim
  | _ => exact if_pos hstop

/-- So are all of them. -/
theorem allowed_cons (unlisted : ∀ items, t ≠ .list items) :
    (⟨name, t :: more⟩ : Arguments).allowed 0 = (t :: more).mapM ((⟨name, t :: more⟩ : Arguments).entry 0) := by
  show Arguments.allowedUntil _ 0 (t :: more).length = _
  rw [allowedUntil_cons unlisted (Nat.le_refl _), List.take_length]

/-- Arguments that stand for entries give these. -/
theorem allowed_terms (e : Allowed) (entries : List Allowed) :
    (⟨name, (e :: entries).map Allowed.term⟩ : Arguments).allowed 0 = .ok (e :: entries) := by
  have unlisted : ∀ items, e.term ≠ .list items := by cases e <;> exact nofun
  rw [List.map_cons, allowed_cons unlisted, ← List.map_cons, mapM_entry_term]

end Arguments

namespace Member

variable (name : String)

/-- Arguments that a literal leads are all entries, and there is no message. -/
theorem membership_led_by_literal (v : Json) (entries : List Allowed) :
    membership ⟨name, (Allowed.value v :: entries).map Allowed.term⟩ = .ok (.value v :: entries, none) := by
  show (do return (← Arguments.allowed _ 0, none)) = _
  rw [Arguments.allowed_terms]
  rfl

/-- Of arguments that a reference leads, the last is looked at: it is the message if it is a text. -/
theorem membership_reference (r : Reference) (more : List Term) :
    membership ⟨name, .reference r :: more⟩ =
      match more.length, Arguments.literal? ⟨name, .reference r :: more⟩ more.length with
      | _ + 1, some (.str _) => do
        return (← Arguments.allowedUntil ⟨name, .reference r :: more⟩ 0 more.length,
          ← Arguments.message ⟨name, .reference r :: more⟩ more.length)
      | _, _ => do return (← Arguments.allowed ⟨name, .reference r :: more⟩ 0, none) := rfl

/-- A text that ends arguments that a reference leads is the message, and the others are the entries. -/
theorem membership_ended_by_text (r : Reference) (entries : List Allowed) (t : String) :
    membership ⟨name, .reference r :: (entries.map Allowed.term ++ [.literal (.str t)])⟩ =
      .ok (.reference r :: entries, some t) := by
  have hlast : (Term.reference r :: (entries.map Allowed.term ++ [.literal (.str t)]))[entries.length + 1]? =
      some (.literal (.str t)) := by
    simp
  have hlength : (entries.map Allowed.term ++ [Term.literal (.str t)]).length = entries.length + 1 := by simp
  have hentries : (⟨name, .reference r :: (entries.map Allowed.term ++ [.literal (.str t)])⟩ : Arguments).allowedUntil 0
      (entries.length + 1) = .ok (.reference r :: entries) := by
    have htake : ((Allowed.reference r :: entries).map Allowed.term ++ [Term.literal (.str t)]).take (entries.length + 1) =
        (Allowed.reference r :: entries).map Allowed.term := List.take_left' (by simp)
    rw [List.map_cons, Allowed.term, List.cons_append] at htake
    rw [Arguments.allowedUntil_cons (by simp) (by simp), htake]
    exact Arguments.mapM_entry_term _ 0 (.reference r :: entries)
  rw [membership_reference, hlength]
  simp only [Arguments.literal?, Arguments.message, Arguments.get?, hlast, hentries]
  rfl

/-- Without a text at their end, such arguments are all entries, and there is no message. -/
theorem membership_not_ended_by_text (r : Reference) {entries : List Allowed}
    (noText : ∀ t, entries.getLast? ≠ some (.value (.str t))) :
    membership ⟨name, .reference r :: entries.map Allowed.term⟩ = .ok (.reference r :: entries, none) := by
  have hall : (⟨name, .reference r :: entries.map Allowed.term⟩ : Arguments).allowed 0 = .ok (.reference r :: entries) :=
    Arguments.allowed_terms (.reference r) entries
  rw [membership_reference, List.length_map]
  split
  · rename_i last t hlength hlast
    -- The last argument is a text, and so is the last entry.
    rw [hlength] at hlast
    have hentry : (entries[last]?.map Allowed.term) = some (.literal (.str t)) := by
      rw [← List.getElem?_map]
      unfold Arguments.literal? at hlast
      split at hlast
      · rename_i v hv
        cases hlast
        exact hv
      · cases hlast
    obtain ⟨e, he, hterm⟩ := Option.map_eq_some_iff.mp hentry
    cases e with
    | value v =>
      cases hterm
      refine (noText t ?_).elim
      rw [List.getLast?_eq_getElem?, hlength]
      exact he
    | reference r' => cases hterm
  · rw [hall]
    rfl

/-- Arguments that a reference leads are entries, but for a text at their end, which is the message. -/
theorem membership_led_by_reference (r : Reference) (entries : List Allowed) :
    membership ⟨name, (Allowed.reference r :: entries).map Allowed.term⟩ =
      .ok (.reference r :: (splitMessage entries).1, (splitMessage entries).2) := by
  unfold splitMessage
  split
  · rename_i t hlast
    obtain ⟨init, rfl⟩ := List.getLast?_eq_some_iff.mp hlast
    rw [List.map_cons, List.map_append, List.dropLast_concat]
    exact membership_ended_by_text name r init t
  · rename_i noText
    exact membership_not_ended_by_text name r noText

/-! ## One schema or reference -/

variable {name} {s s' : Schema} {t : Term}

/-- The entry of a set that is made of one schema or reference is a reference. -/
theorem membership_single (single : (∃ s', t = .schema s') ∨ ∃ r, t = .reference r) {values : List Allowed}
    {message : Option String} (h : membership ⟨name, [t]⟩ = .ok (values, message)) : ∃ r, values = [.reference r] := by
  obtain ⟨s', rfl⟩ | ⟨r, rfl⟩ := single
  · cases h
  · have hled := (membership_led_by_reference name r []).symm.trans h
    cases hled
    exact ⟨r, rfl⟩

/-- Of the members, only those of sets and of items take one schema or reference. -/
theorem eq_of_build_single {member : Member} (single : (∃ s', t = .schema s') ∨ ∃ r, t = .reference r)
    (h : member.build s ⟨name, [t]⟩ = .ok s') : member = .oneOf ∨ member = .notOneOf ∨ member = .of := by
  -- What is left of a bound is the kind of the schema, which says what is bounded.
  have bound : ∀ rule : Tag → Arguments → Except BuildError Rule, (∀ tag r, rule tag ⟨name, [t]⟩ ≠ .ok r) →
      bounded s ⟨name, [t]⟩ (rule s.tag ⟨name, [t]⟩) ≠ .ok s' := by
    intro rule refused h
    obtain ⟨-, -, h⟩ := bind_eq_ok_iff.mp h
    obtain ⟨message, -, h⟩ := bind_eq_ok_iff.mp h
    obtain ⟨r, hr, -⟩ := bind_eq_ok_iff.mp h
    exact refused s.tag r hr
  obtain ⟨s', rfl⟩ | ⟨r, rfl⟩ := single
  all_goals
    cases member with
    | oneOf => exact Or.inl rfl
    | notOneOf => exact Or.inr (Or.inl rfl)
    | of => exact Or.inr (Or.inr rfl)
    | min => exact (bound minRule (by intro tag r; cases tag <;> exact nofun) h).elim
    | max => exact (bound maxRule (by intro tag r; cases tag <;> exact nofun) h).elim
    | length => exact (bound lengthRule (by intro tag r; cases tag <;> exact nofun) h).elim
    | _ => cases h

/-- No member gives one schema both for literals that a text leads and for one schema or reference. -/
theorem build_text_ne_build_single (member : Member) {text : String} {more : List Json} {s₁ s₂ : Schema}
    (single : (∃ s', t = .schema s') ∨ ∃ r, t = .reference r)
    (htext : member.build s ⟨name, (Json.str text :: more).map Term.literal⟩ = .ok s₁)
    (hsingle : member.build s ⟨name, [t]⟩ = .ok s₂) : s₁ ≠ s₂ := by
  have entries : ∀ {values₁ values₂ message₁ message₂},
      membership ⟨name, (Json.str text :: more).map Term.literal⟩ = .ok (values₁, message₁) →
        membership ⟨name, [t]⟩ = .ok (values₂, message₂) → values₁ ≠ values₂ := by
    intro values₁ values₂ message₁ message₂ h₁ h₂
    have hled := membership_led_by_literal name (.str text) (more.map .value)
    rw [List.map_cons, List.map_map] at hled
    obtain ⟨rfl, -⟩ := Prod.mk.inj (Except.ok.inj (hled.symm.trans h₁))
    obtain ⟨r, rfl⟩ := membership_single single h₂
    simp
  rcases eq_of_build_single single hsingle with rfl | rfl | rfl
  · obtain ⟨⟨values₁, message₁⟩, h₁, hs₁⟩ := bind_eq_ok_iff.mp htext
    obtain ⟨⟨values₂, message₂⟩, h₂, hs₂⟩ := bind_eq_ok_iff.mp hsingle
    cases hs₁
    cases hs₂
    exact fun h => entries h₁ h₂ (Membership.mk.inj (Option.some.inj (congrArg Schema.oneOfSet h))).1
  · obtain ⟨⟨values₁, message₁⟩, h₁, hs₁⟩ := bind_eq_ok_iff.mp htext
    obtain ⟨⟨values₂, message₂⟩, h₂, hs₂⟩ := bind_eq_ok_iff.mp hsingle
    cases hs₁
    cases hs₂
    exact fun h => entries h₁ h₂ (Membership.mk.inj (Option.some.inj (congrArg Schema.notOneOfSet h))).1
  · -- A text is no schema for items.
    obtain ⟨-, -, h⟩ := bind_eq_ok_iff.mp htext
    cases h

end Member

end Schemata
