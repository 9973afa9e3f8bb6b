import StateCheck.Assertion.Evaluation

/-!
What every evaluation of an assertion has in common, and when it has a result.
-/

namespace StateCheck.Assertion

variable {a : Assertion} {value : String} {found : Bool} {r : Result}

/-! ### What a result carries -/

/-- The result is about this assertion and this value, and not yet about a device; an error of it
is the failure of a predicate. -/
structure Carries (a : Assertion) (value : String) (r : Result) : Prop where
  assertion : r.assertion = a
  actual : r.actual = value
  target : r.target = ""
  error : ∀ e, r.error = some e → ∃ f : Failure, e = .ofFailure f ∧ f.kind = .predicate

theorem carries_judged (a : Assertion) (value : String) (passed : Bool) :
    a.Carries value (a.judged value passed) := ⟨rfl, rfl, rfl, nofun⟩

theorem carries_refused (a : Assertion) (value message : String)
    (details : List (String × String)) : a.Carries value (a.refused value message details) := by
  refine ⟨rfl, rfl, rfl, ?_⟩
  intro e he
  cases he
  exact ⟨_, rfl, rfl⟩

theorem carries_search {pattern : String} (h : a.search pattern value = .ok r) :
    a.Carries value r := by
  unfold search at h
  split at h
  · cases h
    exact carries_judged ..
  · cases h
    exact carries_refused ..
  · cases h
  · cases h

theorem carries_weigh (a : Assertion) (kind : Predicate.Kind) (operand value : String) :
    a.Carries value (a.weigh kind operand value) := by
  unfold weigh
  split
  · exact carries_refused ..
  · split
    · exact carries_refused ..
    · exact carries_judged ..

theorem carries_apply {p : Predicate} (h : a.apply p value = .ok r) : a.Carries value r := by
  unfold apply at h
  dsimp only at h
  split at h
  · cases h
    exact carries_judged ..
  · cases h
    exact carries_judged ..
  · exact carries_search h
  · cases h
    exact carries_weigh ..

theorem carries_evaluate (h : a.evaluate value found = .ok r) : a.Carries value r := by
  unfold evaluate at h
  split at h
  · cases h
    exact carries_judged ..
  · cases h
    exact carries_judged ..
  · split at h
    · split at h
      · exact carries_apply h
      · cases h
        exact carries_refused ..
    · cases h
      exact carries_refused ..

/-! ### Assertions that do not break down -/

/-- The pattern of the assertion, if it has one, is a regular expression or plainly none. -/
def Searchable (a : Assertion) : Prop :=
  ∀ operand e, a.predicate = some ⟨.fits, operand⟩ →
    Pattern.read operand.toText.toList = .error e → e = .invalid

theorem exists_search {pattern : String}
    (h : ∀ e, Pattern.read pattern.toList = .error e → e = .invalid) (value : String) :
    ∃ r, a.search pattern value = .ok r := by
  unfold search
  split
  · exact ⟨_, rfl⟩
  · exact ⟨_, rfl⟩
  · next hp => cases h _ hp
  · next hp => cases h _ hp

theorem exists_apply {p : Predicate} (h : a.Searchable) (hp : a.predicate = some p)
    (value : String) : ∃ r, a.apply p value = .ok r := by
  obtain ⟨kind, operand⟩ := p
  cases kind with
  | fits => exact exists_search (h operand · hp) value
  | _ => exact ⟨_, rfl⟩

/-- Every evaluation of such an assertion has a result. -/
theorem exists_evaluate (h : a.Searchable) (value : String) (found : Bool) :
    ∃ r, a.evaluate value found = .ok r := by
  unfold evaluate
  split
  · exact ⟨_, rfl⟩
  · exact ⟨_, rfl⟩
  · split
    · split
      · next p hp => exact exists_apply h (Option.filter_eq_some_iff.1 hp).1 value
      · exact ⟨_, rfl⟩
    · exact ⟨_, rfl⟩

end StateCheck.Assertion
