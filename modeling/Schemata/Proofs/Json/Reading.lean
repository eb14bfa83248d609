import Schemata.Proofs.Node.RoundTrip

/-!
# Rules of reading

What the reader makes of a list of tokens, as rules: a text is a value, items with commas between them up to the closing bracket are
an array, and a member before the closing brace is an object. A document written in such tokens is read by following its form
(`read?_of_reads`).
-/

namespace Schemata.Json

/-- The tokens at the front of a list are read as a value, and others are left. -/
def Reads (depth : Nat) (ts rest : List Token) (v : Json) : Prop :=
  ∃ left : Shorter ts, left.1 = rest ∧ value? depth ts = some (v, left)

/-- The tokens at the front of a list are read as items up to the closing bracket, and others are left. -/
def ReadsItems (depth : Nat) (ts rest : List Token) (vs : List Json) : Prop :=
  ∃ left : Shorter ts, left.1 = rest ∧ items? depth ts = some (vs, left)

/-- The tokens at the front of a list are read as members up to the closing brace, and others are left. -/
def ReadsMembers (depth : Nat) (ts rest : List Token) (ms : List (String × Json)) : Prop :=
  ∃ left : Shorter ts, left.1 = rest ∧ members? depth ts = some (ms, left)

variable {depth : Nat} {ts rest more : List Token} {v : Json} {vs : List Json} {ms : List (String × Json)}

theorem reads_text (depth : Nat) (s : String) (rest : List Token) : Reads depth (.text s :: rest) rest (.str s) := by
  rw [Reads, value?]
  exact ⟨_, rfl, rfl⟩

/-- The last item has the closing bracket behind it. -/
theorem readsItems_last (h : Reads depth ts (.mark ']' :: rest) v) : ReadsItems depth ts rest [v] := by
  obtain ⟨⟨_, hshorter⟩, rfl, hv⟩ := h
  rw [ReadsItems]
  unfold items?
  simp only [hv]
  exact ⟨_, rfl, rfl⟩

/-- Any other item has a comma and the next items behind it. -/
theorem readsItems_cons (h : Reads depth ts (.mark ',' :: more) v) (hmore : ReadsItems depth more rest vs) :
    ReadsItems depth ts rest (v :: vs) := by
  obtain ⟨⟨_, hshorter⟩, rfl, hv⟩ := h
  obtain ⟨left, rfl, hvs⟩ := hmore
  rw [ReadsItems]
  unfold items?
  simp only [hv, hvs]
  exact ⟨_, rfl, rfl⟩

/-- Items between brackets are an array. -/
theorem reads_arr (h : ReadsItems depth ts rest vs) : Reads (depth + 1) (.mark '[' :: ts) rest (.arr vs) := by
  obtain ⟨left, rfl, hvs⟩ := h
  have hopen : ∀ after, ts = .mark ']' :: after → False := by
    rintro after rfl
    unfold items? value? at hvs
    cases hvs
  rw [Reads, value?, if_neg (Nat.succ_ne_zero depth), Nat.add_sub_cancel, hvs]
  · exact ⟨_, rfl, rfl⟩
  · exact hopen

/-- The last member has the closing brace behind it. -/
theorem readsMembers_last {key : String} (h : Reads depth ts (.mark '\x7d' :: rest) v) :
    ReadsMembers depth (.text key :: .mark ':' :: ts) rest [(key, v)] := by
  obtain ⟨⟨_, hshorter⟩, rfl, hv⟩ := h
  rw [ReadsMembers]
  unfold members?
  simp only [hv]
  exact ⟨_, rfl, rfl⟩

/-- Members between braces are an object. -/
theorem reads_obj (h : ReadsMembers depth ts rest ms) : Reads (depth + 1) (.mark '\x7b' :: ts) rest (.object ms) := by
  obtain ⟨left, rfl, hms⟩ := h
  have hopen : ∀ after, ts = .mark '\x7d' :: after → False := by
    rintro after rfl
    unfold members? at hms
    cases hms
  rw [Reads, value?, if_neg (Nat.succ_ne_zero depth), Nat.add_sub_cancel, hms]
  · exact ⟨_, rfl, rfl⟩
  · exact hopen

/-- A text whose tokens are all read as a value is read as that value. -/
theorem read?_of_reads {s : String} (htokens : tokens s.toList = ts) (h : Reads maxDepth ts [] v) : read? s = some v := by
  obtain ⟨left, hleft, hv⟩ := h
  exact read?_of_tokens htokens hv hleft

/-- A text without tokens is no document. -/
theorem read?_of_tokens_eq_nil {s : String} (htokens : tokens s.toList = []) : read? s = none := by
  have hnone : ∀ ts : List Token, ts = [] → value? maxDepth ts = none := by
    rintro ts rfl
    rw [value?] <;> simp
  rw [read?, readWithin, frontWithin?, hnone _ htokens]
  rfl

end Schemata.Json
