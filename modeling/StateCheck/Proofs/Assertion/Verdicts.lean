import StateCheck.Proofs.Assertion.Evaluation

/-!
Which evaluations of an assertion end with the verdict that they are in error, and which ones have
no result.
-/

namespace StateCheck.Assertion

variable {a : Assertion} {value : String} {found : Bool} {r : Result} {b : Breakdown}

/-! ### Evaluations without a result -/

/-- The pattern of the assertion cannot be read, but not because it is no regular expression. -/
inductive Jams (a : Assertion) : Breakdown → Prop
  | conflict {operand : Predicate.Operand} (hp : a.predicate = some ⟨.fits, operand⟩)
      (hr : Pattern.read operand.toText.toList = .error .conflictingFlags) : Jams a .unreadable
  | large {operand : Predicate.Operand} (hp : a.predicate = some ⟨.fits, operand⟩)
      (hr : Pattern.read operand.toText.toList = .error .tooLarge) : Jams a .overflow

theorem search_eq_error {pattern : String} (h : a.search pattern value = .error b) :
    Pattern.read pattern.toList = .error .conflictingFlags ∧ b = .unreadable ∨
      Pattern.read pattern.toList = .error .tooLarge ∧ b = .overflow := by
  unfold search at h
  split at h
  · cases h
  · cases h
  · next hr =>
    cases h
    exact .inl ⟨hr, rfl⟩
  · next hr =>
    cases h
    exact .inr ⟨hr, rfl⟩

theorem apply_eq_error {p : Predicate} (h : a.apply p value = .error b) :
    p.kind = .fits ∧ a.search p.operand.toText value = .error b := by
  obtain ⟨kind, operand⟩ := p
  cases kind with
  | fits => exact ⟨rfl, h⟩
  | _ => cases h

theorem predicate_of_active? {p : Predicate} (h : a.active? = some p) : a.predicate = some p :=
  (Option.filter_eq_some_iff.1 h).1

theorem active?_of_fits {operand : Predicate.Operand} (h : a.predicate = some ⟨.fits, operand⟩) :
    a.active? = some ⟨.fits, operand⟩ := by
  rw [active?, h]
  rfl

theorem evaluate_eq_error_iff : a.evaluate value found = .error b ↔ found = true ∧ a.Jams b := by
  constructor
  · intro h
    unfold evaluate at h
    split at h
    · cases h
    · cases h
    · split at h
      · next hfound =>
        split at h
        · next p hp =>
          obtain ⟨hk, hs⟩ := apply_eq_error h
          obtain ⟨kind, operand⟩ := p
          obtain rfl : kind = .fits := hk
          have hpredicate := predicate_of_active? hp
          obtain ⟨hr, rfl⟩ | ⟨hr, rfl⟩ := search_eq_error hs
          · exact ⟨hfound, .conflict hpredicate hr⟩
          · exact ⟨hfound, .large hpredicate hr⟩
        · cases h
      · cases h
  · rintro ⟨rfl, h⟩
    cases h with
    | conflict hp hr | large hp hr =>
      rw [evaluate, active?_of_fits hp]
      simp [apply, search, hr]

/-! ### Error verdicts -/

/-- The question of the assertion has no answer for a value: it asks nothing, there is no value at
its path, or the value cannot be compared with its operand. -/
inductive Undecided (a : Assertion) (value : String) : (found : Bool) → Prop
  | unasked {found : Bool} (h : a.active? = none) : Undecided a value found
  | missing {p : Predicate} (h : a.active? = some p) (hk : p.kind.isFlag = false) :
      Undecided a value false
  | value {p : Predicate} (h : a.active? = some p) (hk : p.kind.isNumeric = true)
      (hn : Numeral.readFloat? value.toList = none) : Undecided a value true
  | threshold {p : Predicate} (h : a.active? = some p) (hk : p.kind.isNumeric = true)
      (hn : Numeral.readFloat? p.operand.toText.toList = none) : Undecided a value true
  | pattern {p : Predicate} (h : a.active? = some p) (hk : p.kind = .fits)
      (hr : Pattern.read p.operand.toText.toList = .error .invalid) : Undecided a value true

theorem verdict_judged (a : Assertion) (value : String) (passed : Bool) :
    (a.judged value passed).verdict ≠ .error := by
  cases passed <;> simp [Result.verdict, judged]

theorem verdict_refused (a : Assertion) (value message : String)
    (details : List (String × String)) : (a.refused value message details).verdict = .error := rfl

theorem search_verdict {pattern : String} (h : a.search pattern value = .ok r) :
    r.verdict = .error ↔ Pattern.read pattern.toList = .error .invalid := by
  unfold search at h
  split at h
  · next hr =>
    cases h
    simp [verdict_judged, hr]
  · next hr =>
    cases h
    simp [verdict_refused, hr]
  · cases h
  · cases h

theorem weigh_verdict (kind : Predicate.Kind) (operand : String) :
    (a.weigh kind operand value).verdict = .error ↔
      Numeral.readFloat? value.toList = none ∨ Numeral.readFloat? operand.toList = none := by
  unfold weigh
  split
  · next hv => simp [verdict_refused, hv]
  · next hv =>
    split
    · next ho => simp [verdict_refused, ho]
    · next ho => simp [verdict_judged, hv, ho]

theorem undecided_iff {p : Predicate} (hp : a.active? = some p) :
    a.Undecided value found ↔ found = false ∧ p.kind.isFlag = false ∨
      found = true ∧ (p.kind.isNumeric = true ∧ (Numeral.readFloat? value.toList = none ∨
          Numeral.readFloat? p.operand.toText.toList = none) ∨
        p.kind = .fits ∧ Pattern.read p.operand.toText.toList = .error .invalid) := by
  constructor
  · intro hu
    cases hu with
    | unasked hq =>
      rw [hp] at hq
      cases hq
    | missing hq hk =>
      cases hp.symm.trans hq
      exact .inl ⟨rfl, hk⟩
    | value hq hk hn =>
      cases hp.symm.trans hq
      exact .inr ⟨rfl, .inl ⟨hk, .inl hn⟩⟩
    | threshold hq hk hn =>
      cases hp.symm.trans hq
      exact .inr ⟨rfl, .inl ⟨hk, .inr hn⟩⟩
    | pattern hq hk hr =>
      cases hp.symm.trans hq
      exact .inr ⟨rfl, .inr ⟨hk, hr⟩⟩
  · rintro (⟨rfl, hk⟩ | ⟨rfl, ⟨hk, hn | hn⟩ | ⟨hk, hr⟩⟩)
    · exact .missing hp hk
    · exact .value hp hk hn
    · exact .threshold hp hk hn
    · exact .pattern hp hk hr

theorem apply_verdict {p : Predicate} (hp : a.active? = some p) (hf : p.kind.isFlag = false)
    (h : a.apply p value = .ok r) : r.verdict = .error ↔ a.Undecided value true := by
  rw [undecided_iff hp]
  obtain ⟨kind, operand⟩ := p
  cases kind with
  | equals | contains =>
    cases h
    simp [verdict_judged, Predicate.Kind.isNumeric]
  | fits =>
    rw [search_verdict h]
    simp [Predicate.Kind.isNumeric]
  | above | below | atLeast | atMost =>
    simp only [apply, Except.ok.injEq] at h
    rw [← h, weigh_verdict]
    simp [Predicate.Kind.isNumeric]
  | present | absent => cases hf

theorem not_undecided_of_isFlag {p : Predicate} (hp : a.active? = some p)
    (hf : p.kind.isFlag = true) : ¬a.Undecided value found := by
  rw [undecided_iff hp]
  obtain ⟨kind, operand⟩ := p
  cases kind with
  | present | absent => simp [Predicate.Kind.isFlag, Predicate.Kind.isNumeric]
  | _ => cases hf

/-- An evaluation ends with an error exactly if its question has no answer. -/
theorem evaluate_verdict (h : a.evaluate value found = .ok r) :
    r.verdict = .error ↔ a.Undecided value found := by
  unfold evaluate at h
  split at h
  · next hp =>
    cases h
    exact iff_of_false (verdict_judged _ _ _) (not_undecided_of_isFlag hp rfl)
  · next hp =>
    cases h
    exact iff_of_false (verdict_judged _ _ _) (not_undecided_of_isFlag hp rfl)
  · next hpresent habsent =>
    have hflag : ∀ p, a.active? = some p → p.kind.isFlag = false := by
      rintro ⟨kind, operand⟩ hp
      cases kind with
      | present => exact absurd hp (hpresent operand)
      | absent => exact absurd hp (habsent operand)
      | _ => rfl
    split at h
    · next hfound =>
      subst hfound
      split at h
      · next p hp => exact apply_verdict hp (hflag p hp) h
      · next hnone =>
        cases h
        exact iff_of_true rfl (.unasked hnone)
    · next hfound =>
      cases h
      obtain rfl : found = false := by simpa using hfound
      refine iff_of_true rfl ?_
      cases hp : a.active? with
      | none => exact .unasked hp
      | some p => exact .missing hp (hflag p hp)

end StateCheck.Assertion
