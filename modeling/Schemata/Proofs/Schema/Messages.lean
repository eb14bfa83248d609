import Schemata.Proofs.Schema.Localisation
import Schemata.Proofs.Schema.Refinement

/-!
# Messages of one's own

A schema can have messages of its own: for a value that is missing, for a set, and for a rule. They are words only. Without them
(`Schema.withoutMessages`) the same values are accepted, the description is the same, and a check finds the same positions wrong
under the same codes (`Schema.check_withoutMessages`).
-/

namespace Schemata

namespace Rule

/-- A rule under all messages of its own. -/
def withoutMessage : Rule → Rule
  | .withMessage inner _ => inner.withoutMessage
  | rule => rule

@[simp] theorem accepts_withoutMessage (rule : Rule) : rule.withoutMessage.accepts = rule.accepts := by
  induction rule with
  | withMessage inner message ih => exact ih
  | _ => rfl

@[simp] theorem code_withoutMessage (rule : Rule) : rule.withoutMessage.code = rule.code := by
  induction rule with
  | withMessage inner message ih => exact ih
  | _ => rfl

@[simp] theorem name_withoutMessage (rule : Rule) : rule.withoutMessage.name = rule.name := by
  induction rule with
  | withMessage inner message ih => exact ih
  | _ => rfl

end Rule

/-- A set without a message of its own. -/
def Membership.withoutMessage (set : Membership) : Membership :=
  { set with message := none }

/-- A kind with something done to the parts. -/
def Kind.map {α β : Type} (f : α → β) : Kind α → Kind β
  | .mixed => .mixed
  | .string => .string
  | .number => .number
  | .boolean => .boolean
  | .object fields => .object (Mapping.mapValues f fields)
  | .array element => .array (element.map f)

@[simp] theorem Kind.tag_map {α β : Type} (f : α → β) (kind : Kind α) : (kind.map f).tag = kind.tag := by
  cases kind <;> rfl

namespace Schema

mutual

/-- A schema without messages of its own, at any depth. -/
def withoutMessages (s : Schema) : Schema :=
  match s with
  | ⟨kind, isRequired, _, isNullable, labelText, rules, oneOfSet, notOneOfSet⟩ =>
    ⟨match kind with
      | .object fields => .object (fieldsWithoutMessages fields)
      | .array (some element) => .array (some (withoutMessages element))
      | kind => kind,
      isRequired, none, isNullable, labelText, rules.map Rule.withoutMessage, oneOfSet.map Membership.withoutMessage,
      notOneOfSet.map Membership.withoutMessage⟩
termination_by structural s

/-- Fields without messages of their own. -/
def fieldsWithoutMessages (fields : List (String × Schema)) : List (String × Schema) :=
  match fields with
  | [] => []
  | (key, field) :: rest => (key, withoutMessages field) :: fieldsWithoutMessages rest
termination_by structural fields

end

/-- Fields lose their messages one by one. -/
theorem fieldsWithoutMessages_eq (fields : Mapping Schema) :
    fieldsWithoutMessages fields = fields.mapValues withoutMessages := by
  induction fields with
  | nil => rfl
  | cons entry rest ih =>
    rw [fieldsWithoutMessages, ih]
    rfl

/-- A schema without messages, written out. -/
theorem withoutMessages_eq (s : Schema) :
    s.withoutMessages =
      ⟨s.kind.map withoutMessages, s.isRequired, none, s.isNullable, s.labelText, s.rules.map Rule.withoutMessage,
        s.oneOfSet.map Membership.withoutMessage, s.notOneOfSet.map Membership.withoutMessage⟩ := by
  obtain ⟨kind, _, _, _, _, _, _, _⟩ := s
  rcases kind with _ | _ | _ | _ | fields | _ | _
  case object => rw [withoutMessages, fieldsWithoutMessages_eq]; rfl
  all_goals rfl

/-! ## The description -/

/-- A set is described alike without its message. -/
theorem entry?_withoutMessage (key : String) (set : Option Membership) :
    entry? key describeSet (set.map Membership.withoutMessage) = entry? key describeSet set := by
  cases set <;> rfl

/-- Messages are no part of a description. -/
theorem describe_withoutMessages (s : Schema) : s.withoutMessages.describe = s.describe := by
  induction s using induct with
  | step s hfields hitems =>
    have hparts : describeParts (s.kind.map withoutMessages) = describeParts s.kind := by
      cases hk : s.kind with
      | object fields =>
        have hbelow : Mapping.mapValues describe (Mapping.mapValues withoutMessages fields) = Mapping.mapValues describe fields := by
          rw [Mapping.mapValues, Mapping.mapValues, List.map_map]
          exact List.map_congr_left fun entry hm => congrArg (entry.1, ·) (hfields fields hk entry hm)
        rw [Kind.map, describeParts, describeParts, describeFields_eq, describeFields_eq, hbelow]
      | array element =>
        cases element with
        | none => rfl
        | some element => exact congrArg (fun d => [("element", d)]) (hitems element hk)
      | _ => rfl
    have htests : describedTests (s.rules.map Rule.withoutMessage) = describedTests s.rules := by
      simp [describedTests]
    rw [describe_eq, describe_eq, withoutMessages_eq]
    simp only [describedFirst, describedLast, tag, Kind.tag_map, htests, hparts, entry?_withoutMessage]

/-! ## What is asked -/

end Schema

/-- A demand without a message of its own. -/
def Demand.withoutMessage : Demand → Demand
  | .member set => .member set.withoutMessage
  | .nonmember set => .nonmember set.withoutMessage
  | .rule r => .rule r.withoutMessage
  | demand => demand

@[simp] theorem Demand.code_withoutMessage (d : Demand) : d.withoutMessage.code = d.code := by
  cases d <;> simp [withoutMessage, code]

/-- Of a value that is there the same is asked, the messages aside. -/
theorem Schema.bodyDemands_withoutMessages (s : Schema) :
    s.withoutMessages.bodyDemands = s.bodyDemands.map Demand.withoutMessage := by
  rw [withoutMessages_eq]
  cases ho : s.oneOfSet <;> cases hn : s.notOneOfSet <;>
    simp [bodyDemands, ho, hn, Demand.withoutMessage, Function.comp_def]

namespace Place

/-- A place, checked without messages. -/
def withoutMessages (p : Place) : Place :=
  { p with schema := p.schema.withoutMessages }

/-- A place meets a demand exactly if it does without messages. -/
theorem isMet_withoutMessages (p : Place) (d : Demand) : d.withoutMessage.isMet p.withoutMessages = d.isMet p := by
  have hrequired : p.schema.withoutMessages.isRequired = p.schema.isRequired := by rw [Schema.withoutMessages_eq]
  have htag : p.schema.withoutMessages.tag = p.schema.tag := by rw [Schema.withoutMessages_eq, Schema.tag, Kind.tag_map, Schema.tag]
  cases d with
  | presence => simp [Demand.isMet, Demand.withoutMessage, withoutMessages, hrequired]
  | kind => simp [Demand.isMet, Demand.withoutMessage, withoutMessages, htag]
  | nonempty => simp [Demand.isMet, Demand.withoutMessage, withoutMessages, hrequired, htag]
  | member set => rfl
  | nonmember set => rfl
  | rule r => simp [Demand.isMet, Demand.withoutMessage, withoutMessages]

/-- The same is asked of a place, the messages aside. -/
theorem demands_withoutMessages (p : Place) : p.withoutMessages.demands = p.demands.map Demand.withoutMessage := by
  obtain ⟨s, value, parent⟩ := p
  have hnullable : s.withoutMessages.isNullable = s.isNullable := by rw [Schema.withoutMessages_eq]
  simp only [demands, withoutMessages, hnullable, s.bodyDemands_withoutMessages]
  rcases value with _ | v
  · rfl
  · cases v with
    | null => cases s.isNullable <;> rfl
    | _ => rfl

/-- The first demand that is not met is the same, its message aside. -/
theorem firstUnmet?_withoutMessages (p : Place) :
    p.withoutMessages.firstUnmet? = p.firstUnmet?.map Demand.withoutMessage := by
  rw [firstUnmet?, demands_withoutMessages, List.find?_map]
  simp only [Function.comp_def, isMet_withoutMessages]
  rfl

/-! ## What is found -/

/-- The places below are those below, checked without messages. -/
theorem parts_withoutMessages (p : Place) :
    p.withoutMessages.parts = p.parts.map fun (step, part) => (step, part.withoutMessages) := by
  obtain ⟨s, value, parent⟩ := p
  have hkind : s.withoutMessages.kind = s.kind.map Schema.withoutMessages := by rw [Schema.withoutMessages_eq]
  simp only [parts, withoutMessages, hkind]
  rcases hk : s.kind with _ | _ | _ | _ | fields | _ | element
  case object =>
    rcases value with _ | (_ | _ | _ | _ | _ | members) <;> simp [Kind.map, Mapping.mapValues]
  case array.some =>
    rcases value with _ | (_ | _ | _ | _ | items | _) <;> simp [Kind.map]
  all_goals rfl

/-- The same places fail at and below a place. -/
theorem failing_withoutMessages (p : Place) :
    p.withoutMessages.failing = p.failing.map fun (path, q) => (path, q.withoutMessages) := by
  induction p using induct with
  | step p ih =>
    cases hunmet : p.firstUnmet? with
    | some d =>
      obtain ⟨e, hown, -⟩ := ownViolation?_of_unmet hunmet
      obtain ⟨e', hown', -⟩ := ownViolation?_of_unmet (p.firstUnmet?_withoutMessages.trans (by rw [hunmet]; rfl))
      rw [failing_of_some hown, failing_of_some hown', List.map_singleton]
    | none =>
      -- The place itself is right with messages and without, and the places below decide.
      have hunmet' : p.withoutMessages.firstUnmet? = none := by rw [firstUnmet?_withoutMessages, hunmet, Option.map_none]
      rw [failing_of_none (ownViolation?_of_met hunmet), failing_of_none (ownViolation?_of_met hunmet'),
        parts_withoutMessages, List.flatMap_map, List.map_flatMap]
      apply List.flatMap_congr
      rintro ⟨step, part⟩ hm
      rw [ih _ hm, List.map_map, List.map_map]
      rfl

/-- The same positions fail at and below a place, under the same codes. -/
theorem failures_withoutMessages (p : Place) : p.withoutMessages.failures = p.failures := by
  simp only [failures, findings, failing_withoutMessages, List.filterMap_map, List.map_filterMap]
  apply List.filterMap_congr
  rintro ⟨path, q⟩ -
  simp only [Function.comp_apply, firstUnmet?_withoutMessages, Option.map_map]
  exact congrArg (Option.map · q.firstUnmet?) (funext fun d => congrArg (path, ·) d.code_withoutMessage)

/-- A check tells the same without messages, words aside. -/
theorem map_summaries_withoutMessages (p : Place) :
    p.withoutMessages.violation?.map Violation.summaries = p.violation?.map Violation.summaries := by
  rw [map_summaries_violation?, map_summaries_violation?, failures_withoutMessages]

end Place

/-- Messages are words only. Without them a schema has the same description, accepts the same values and absences, and finds the same
positions wrong in the same order and under the same codes. -/
theorem Schema.check_withoutMessages (s : Schema) :
    s.withoutMessages.describe = s.describe ∧
      ∀ v, s.withoutMessages.isValid v = s.isValid v ∧
        (s.withoutMessages.check v).map (fun e => (e.flatten.filter fun inner => !inner.hasNested).map
            fun leaf => (leaf.code, leaf.field)) =
          (s.check v).map (fun e => (e.flatten.filter fun inner => !inner.hasNested).map
            fun leaf => (leaf.code, leaf.field)) := by
  refine ⟨s.describe_withoutMessages, fun v => ?_⟩
  have hsame : (s.withoutMessages.check v).map Violation.summaries = (s.check v).map Violation.summaries :=
    Place.map_summaries_withoutMessages ⟨s, v, none⟩
  constructor
  · have hnone := congrArg Option.isNone hsame
    rwa [Option.isNone_map, Option.isNone_map] at hnone
  · have hswap := congrArg (Option.map (List.map Prod.swap)) hsame
    simpa [Violation.summaries, Violation.leaves, Violation.summary, Function.comp_def] using hswap

/-- Messages of one's own change the words, and the tree above a broken rule. -/
example :
    let s := (Schema.ofTag .object).shape [("name", (Schema.ofTag .string).required (some "who is it?")),
      ("nick", (Schema.ofTag .string).rule (.withMessage (.minLength 3) "too short"))]
    let said := fun (s : Schema) => (s.check (some (.obj [("nick", .str "a")]))).map fun e => e.flatten.map (·.message)
    said s = some ["Object validation failed", "who is it?", "too short", "Must be at least 3 characters"] ∧
      said s.withoutMessages =
        some ["Object validation failed", "This field is required", "Must be at least 3 characters"] := by
  decide

end Schemata
