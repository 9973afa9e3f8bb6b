import StateCheck.Device.Waiting

/-!
How a wait ends. It is over at the answer, at the end of its time, or at the first look after the
cancellation, whichever of them comes first, and an answer that has come by then is never lost.
-/

namespace StateCheck.Device.Waiting

variable {times : Times} {horizon now t u : Nat} {e : Ending}

/-! ### Looks -/

theorem reached_iff {o : Option Nat} : reached now o = true ↔ ∃ u, o = some u ∧ u ≤ now := by
  cases o <;> simp [reached]

theorem not_reached_iff {o : Option Nat} : reached now o = false ↔ ∀ u, o = some u → now < u := by
  cases o <;> simp [reached]

/-- What a look can find, and what it decides. -/
inductive Finds (times : Times) (now : Nat) : Option Ending → Prop
  | answer (ha : ∃ a, times.answer = some a ∧ a ≤ now) : Finds times now (some .answered)
  | cancel (ha : ∀ a, times.answer = some a → now < a)
      (hc : ∃ c, times.cancel = some c ∧ c ≤ now) : Finds times now (some .cancelled)
  | limit (ha : ∀ a, times.answer = some a → now < a) (hc : ∀ c, times.cancel = some c → now < c)
      (hl : ∃ l, times.limit = some l ∧ l ≤ now) : Finds times now (some .timedOut)
  | nothing (ha : ∀ a, times.answer = some a → now < a)
      (hc : ∀ c, times.cancel = some c → now < c) (hl : ∀ l, times.limit = some l → now < l) :
      Finds times now none

theorem finds_decide? (times : Times) (now : Nat) : Finds times now (decide? times now) := by
  simp only [decide?]
  split
  · next ha => exact .answer (reached_iff.1 ha)
  · next ha =>
    have ha := not_reached_iff.1 (Bool.eq_false_iff.2 ha)
    split
    · next hc => exact .cancel ha (reached_iff.1 hc)
    · next hc =>
      have hc := not_reached_iff.1 (Bool.eq_false_iff.2 hc)
      split
      · next hl => exact .limit ha hc (reached_iff.1 hl)
      · next hl => exact .nothing ha hc (not_reached_iff.1 (Bool.eq_false_iff.2 hl))

theorem earlier_le (t : Nat) (o : Option Nat) : earlier t o ≤ t := by
  cases o with
  | none => exact Nat.le_refl t
  | some u => exact Nat.min_le_left t u

theorem earlier_le_of_eq {o : Option Nat} (h : o = some u) : earlier t o ≤ u := by
  subst h
  exact Nat.min_le_right t u

/-! ### The way to the end -/

/-- The wait has not gone past anything that ends it: at most one interval lies between the
cancellation and the look that notices it. -/
structure Ahead (times : Times) (now : Nat) : Prop where
  answer : ∀ a, times.answer = some a → now ≤ a
  limit : ∀ l, times.limit = some l → now ≤ l
  cancel : ∀ c, times.cancel = some c → now ≤ c + pollInterval

theorem ahead_zero (times : Times) : Ahead times 0 :=
  ⟨fun _ _ => Nat.zero_le _, fun _ _ => Nat.zero_le _, fun _ _ => Nat.zero_le _⟩

/-- A look that finds nothing is followed by one that has not gone past anything either. -/
theorem ahead_nextLook (h : decide? times now = none) : Ahead times (nextLook times now) := by
  have hlimit : nextLook times now ≤ earlier (now + pollInterval) times.limit := earlier_le ..
  have hslice : nextLook times now ≤ now + pollInterval := Nat.le_trans hlimit (earlier_le ..)
  have hfinds := finds_decide? times now
  rw [h] at hfinds
  cases hfinds with
  | nothing ha hc hl =>
    refine ⟨fun a ha => earlier_le_of_eq ha, fun l hl => ?_, fun c hcancel => ?_⟩
    · exact Nat.le_trans hlimit (earlier_le_of_eq hl)
    · have hlt := hc c hcancel
      omega

/-- From a look on, the wait comes to an end if some horizon leaves nothing undecided. -/
theorem exists_lookUntil (h : Ahead times now)
    (hend : ∀ t, horizon ≤ t → decide? times t ≠ none) :
    ∃ e t, lookUntil times horizon now = some (e, t) ∧ Ahead times t ∧
      decide? times t = some e := by
  fun_induction lookUntil times horizon now with
  | case1 now e he => exact ⟨e, now, rfl, h, he⟩
  | case2 now hnone hlt ih => exact ih (ahead_nextLook hnone)
  | case3 now hnone hlt => exact absurd hnone (hend now (Nat.le_of_not_lt hlt))

theorem horizon?_eq_none_iff :
    horizon? times = none ↔ times.answer = none ∧ times.cancel = none ∧ times.limit = none := by
  obtain ⟨a, c, l⟩ := times
  cases a <;> cases c <;> cases l <;> simp [horizon?]

/-- The horizon is the time of one of the events. -/
theorem happens_of_horizon? (h : horizon? times = some horizon) :
    times.answer = some horizon ∨ times.cancel = some horizon ∨ times.limit = some horizon := by
  obtain ⟨a, c, l⟩ := times
  cases a <;> cases c <;> cases l <;> simp [horizon?] at h <;> subst h <;> simp <;> omega

theorem decide?_ne_none (h : horizon? times = some horizon) (ht : horizon ≤ t) :
    decide? times t ≠ none := by
  intro hnone
  have hfinds := finds_decide? times t
  rw [hnone] at hfinds
  cases hfinds with
  | nothing ha hc hl =>
    obtain h | h | h := happens_of_horizon? h
    · exact absurd ht (Nat.not_le.2 (ha _ h))
    · exact absurd ht (Nat.not_le.2 (hc _ h))
    · exact absurd ht (Nat.not_le.2 (hl _ h))

theorem await_cases (times : Times) :
    (await times = none ∧ times.answer = none ∧ times.cancel = none ∧ times.limit = none) ∨
      ∃ e t, await times = some (e, t) ∧ Ahead times t ∧ Finds times t (some e) := by
  cases hhorizon : horizon? times with
  | none => exact .inl ⟨by rw [await, hhorizon]; rfl, horizon?_eq_none_iff.1 hhorizon⟩
  | some horizon =>
    obtain ⟨e, t, hlook, hahead, hdecide⟩ :=
      exists_lookUntil (ahead_zero times) fun t => decide?_ne_none hhorizon
    have hfinds := finds_decide? times t
    rw [hdecide] at hfinds
    exact .inr ⟨e, t, by rw [await, hhorizon]; exact hlook, hahead, hfinds⟩

/-- An answer that has come when nothing else ends the wait before it is the end of it. -/
theorem await_of_answer {a : Nat} (ha : times.answer = some a)
    (hl : ∀ l, times.limit = some l → a ≤ l) (hc : ∀ c, times.cancel = some c → a ≤ c) :
    await times = some (.answered, a) := by
  obtain ⟨-, hnone, -⟩ | ⟨e, t, hawait, hahead, hfinds⟩ := await_cases times
  · cases hnone.symm.trans ha
  · have hle := hahead.answer a ha
    cases hfinds with
    | answer h =>
      obtain ⟨a', ha', hle'⟩ := h
      cases ha.symm.trans ha'
      rw [hawait, Nat.le_antisymm hle hle']
    | cancel h hcancel =>
      obtain ⟨c, hcancel, hct⟩ := hcancel
      have hat := h a ha
      have hac := hc c hcancel
      omega
    | limit h _ hlimit =>
      obtain ⟨l, hlimit, hlt⟩ := hlimit
      have hat := h a ha
      have hal := hl l hlimit
      omega

/-- A wait ends exactly if anything is to happen: not behind the answer or the end of its time, and
not more than an interval behind the cancellation. It is out of time only at the end of its time
and without an answer by then, it is cancelled only when the cancellation has come and the answer
has not, and it ends with an answer that comes no later than the two. -/
theorem await_outcome (times : Times) :
    (await times = none ↔
      times.answer = none ∧ times.cancel = none ∧ times.limit = none) ∧
    (∀ e t, await times = some (e, t) →
      ((∀ a, times.answer = some a → t ≤ a) ∧ (∀ l, times.limit = some l → t ≤ l) ∧
        ∀ c, times.cancel = some c → t ≤ c + pollInterval) ∧
      (e = .timedOut → times.limit = some t ∧ ∀ a, times.answer = some a → t < a) ∧
      (e = .cancelled →
        (∃ c, times.cancel = some c ∧ c ≤ t) ∧ ∀ a, times.answer = some a → t < a) ∧
      (e = .answered → times.answer = some t)) ∧
    ∀ a, times.answer = some a → (∀ l, times.limit = some l → a ≤ l) →
      (∀ c, times.cancel = some c → a ≤ c) → await times = some (.answered, a) := by
  refine ⟨?_, ?_, fun a ha hl hc => await_of_answer ha hl hc⟩
  · obtain ⟨hawait, hnever⟩ | ⟨e, t, hawait, -, hfinds⟩ := await_cases times
    · exact iff_of_true hawait hnever
    · refine iff_of_false (by rw [hawait]; exact nofun) ?_
      rintro ⟨ha, hc, hl⟩
      cases hfinds <;> simp_all
  · intro e t hawait
    obtain ⟨hnone, -⟩ | ⟨e', t', hsome, hahead, hfinds⟩ := await_cases times
    · cases hnone.symm.trans hawait
    · cases hsome.symm.trans hawait
      refine ⟨⟨hahead.answer, hahead.limit, hahead.cancel⟩, ?_, ?_, ?_⟩
      · rintro rfl
        cases hfinds with
        | limit ha _ hl =>
          obtain ⟨l, hl, hle⟩ := hl
          exact ⟨by rw [hl, Nat.le_antisymm hle (hahead.limit l hl)], ha⟩
      · rintro rfl
        cases hfinds with
        | cancel ha hc => exact ⟨hc, ha⟩
      · rintro rfl
        cases hfinds with
        | answer ha =>
          obtain ⟨a, ha, hle⟩ := ha
          rw [ha, Nat.le_antisymm hle (hahead.answer a ha)]

/-- The answer may come just when the time is up and the wait is cancelled; a cancellation right
after the first look is noticed by the second one. -/
theorem await_outcome_close : await ⟨some 5, some 5, some 5⟩ = some (.answered, 5) ∧
    ∃ t, await ⟨none, some 1, none⟩ = some (.cancelled, t) ∧ 1 ≤ t ∧ t ≤ 1 + pollInterval := by
  constructor
  · exact (await_outcome ⟨some 5, some 5, some 5⟩).2.2 5 rfl
      (fun l hl => by cases hl; decide) (fun c hc => by cases hc; decide)
  · obtain ⟨hends, hhow, -⟩ := await_outcome ⟨none, some 1, none⟩
    cases hawait : await ⟨none, some 1, none⟩ with
    | none => cases (hends.1 hawait).2.1
    | some ending =>
      obtain ⟨e, t⟩ := ending
      obtain ⟨⟨-, -, hle⟩, hlimit, hcancel, hanswer⟩ := hhow e t hawait
      cases e with
      | answered => cases hanswer rfl
      | timedOut => cases (hlimit rfl).1
      | cancelled =>
        obtain ⟨⟨c, hc, hct⟩, -⟩ := hcancel rfl
        cases hc
        exact ⟨t, rfl, hct, hle 1 rfl⟩

end StateCheck.Device.Waiting
