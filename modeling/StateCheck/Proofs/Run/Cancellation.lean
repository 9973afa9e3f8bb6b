import StateCheck.Proofs.Run.Settlement

/-!
Cancelled runs: for which work that was left out or broken off a run counts as cancelled.
-/

namespace StateCheck.Run

/-! ### Moves of a schedule -/

/-- From a state on, a schedule makes a move in another state. -/
inductive Makes (p : Plan) (n : Network) (listener : Listener) :
    List Move → State → Move → State → Prop
  | here {m : Move} {rest : List Move} {s : State} : Makes p n listener (m :: rest) s m s
  | later {m m' : Move} {rest : List Move} {s s' : State}
      (h : Makes p n listener rest (step p n listener s m) m' s') :
      Makes p n listener (m :: rest) s m' s'

variable {p : Plan} {n : Network} {listener : Listener} {s s' : State} {m : Move} {i j : Nat}
  {t : Target} {x : Place} {e : Fault} {schedule before after : List Move}

theorem makes_append (h : Makes p n listener (before ++ after) s m s') :
    Makes p n listener before s m s' ∨
      Makes p n listener after (follow p n listener before s) m s' := by
  induction before generalizing s with
  | nil => exact .inr h
  | cons m' before ih =>
    cases h with
    | here => exact .inl .here
    | later h => exact (ih h).imp .later id

/-- What the steps preserve holds from the start of the schedule to the move. -/
theorem Makes.induction {P : State → Prop} (h : Makes p n listener schedule s m s')
    (hstep : ∀ s s', P s → Change p n listener s s' → P s') (hs : P s) : P s' := by
  induction h with
  | here => exact hs
  | later h ih => exact ih (hstep _ _ hs (change_step _))

/-- What the steps preserve holds from the state after the move to the end of the schedule. -/
theorem Makes.follow_induction {P : State → Prop} (h : Makes p n listener schedule s m s')
    (hstep : ∀ s s', P s → Change p n listener s s' → P s') (hs : P (step p n listener s' m)) :
    P (follow p n listener schedule s) := by
  induction h with
  | @here m rest s => exact Run.follow_induction hstep rest hs
  | later h ih => exact ih hs

theorem Makes.sound (h : Makes p n listener schedule (.start p) m s') :
    Sound p n listener s' :=
  h.induction (fun _ _ hs hc => hs.change hc) (sound_start p n listener)

/-! ### Work that is cut -/

/-- A move that leaves out work or breaks it off because the run is stopped. -/
inductive Cuts (p : Plan) (s : State) : Move → Prop
  /-- A target is passed by. -/
  | passed {i : Nat} (hv : s.visits[i]? = some .waiting)
      (hfree : s.visits.countP Visit.isActive < p.workers) (hs : s.isStopped p = true) :
      Cuts p s (.target i)
  /-- An assertion is not asked about. -/
  | leftOut {i j : Nat} {t : Target} {a : Assertion} {c : Device.Connection} {tasks : List Task}
      (hv : s.visits[i]? = some (.visiting c tasks)) (ht : p.targets[i]? = some t)
      (ha : t.assertions[j]? = some a) (hj : tasks[j]? = some .waiting)
      (hfree : tasks.countP Task.isActive < p.parallel) (hs : s.isStopped p = true) :
      Cuts p s (.assertion i j)
  /-- A request has failed. -/
  | interrupted {i j : Nat} {t : Target} {a : Assertion} {c : Device.Connection}
      {tasks : List Task} {e : Fault} (hv : s.visits[i]? = some (.visiting c tasks))
      (ht : p.targets[i]? = some t) (ha : t.assertions[j]? = some a)
      (hj : tasks[j]? = some (.answered (.error e))) (he : (e.asKind? .fetch).isSome = true)
      (hs : s.isStopped p = true) : Cuts p s (.assertion i j)

theorem Cuts.cutShort (h : Cuts p s m) : (step p n listener s m).cutShort = true := by
  cases h with
  | passed hv hfree hs =>
    rw [step_target hv (.leftOut hfree hs) nofun]
    simp [State.after]
  | leftOut hv ht ha hj hfree hs =>
    rw [step_assertion hv ht ha hj (.leftOut hfree hs)]
    simp [State.after]
  | interrupted hv ht ha hj he hs =>
    rw [step_assertion hv ht ha hj (.judged rfl)]
    simp [State.after, isFetchFailure, he, hs]

theorem cutShort_enter (p : Plan) (n : Network) (i : Nat) (t : Target) (s : State) :
    (enter p n i t s).cutShort = s.cutShort := by
  unfold enter
  dsimp only
  split <;> rfl

theorem cutShort_leave (n : Network) (i : Nat) (c : Device.Connection) (tasks : List Task)
    (s : State) : (leave n i c tasks s).cutShort = s.cutShort := by
  unfold leave
  split
  · dsimp only
    split <;> rfl
  · rfl

theorem cuts_of_stepTarget (h : (stepTarget p n i s).cutShort = true) :
    s.cutShort = true ∨ Cuts p s (.target i) := by
  unfold stepTarget at h
  split at h
  · next hv =>
    unfold arrive at h
    split at h
    · next hfree =>
      split at h
      · next hs => exact .inr (.passed hv hfree hs)
      · exact .inl h
    · exact .inl h
  · rw [cutShort_enter] at h
    exact .inl h
  · rw [cutShort_leave] at h
    exact .inl h
  · exact .inl h

theorem cuts_of_stepTask {a : Assertion} {c : Device.Connection} {tasks : List Task} {task : Task}
    (hv : s.visits[i]? = some (.visiting c tasks)) (ht : p.targets[i]? = some t)
    (ha : t.assertions[j]? = some a) (hj : tasks[j]? = some task)
    (h : (stepTask p n listener i j t a c tasks s task).cutShort = true) :
    s.cutShort = true ∨ Cuts p s (.assertion i j) := by
  cases task with
  | waiting =>
    simp only [stepTask] at h
    split at h
    · next hfree =>
      split at h
      · next hs => exact .inr (.leftOut hv ht ha hj hfree hs)
      · exact .inl h
    · exact .inl h
  | answered outcome =>
    by_cases hcut : (isFetchFailure outcome && s.isStopped p) = true
    · obtain ⟨hfetch, hs⟩ := (Bool.and_eq_true ..).mp hcut
      cases outcome with
      | error e => exact .inr (.interrupted hv ht ha hj hfetch hs)
      | ok answer => cases hfetch
    · simp only [stepTask, if_neg hcut] at h
      split at h <;> exact .inl h
  | asking timeout =>
    simp only [stepTask] at h
    split at h <;> exact .inl h
  | ready | judged | done => exact .inl h

theorem Change.cutShort_mono (h : Change p n listener s s') (hs : s.cutShort = true) :
    s'.cutShort = true := by
  cases h with
  | work h =>
    cases h with
    | still => exact hs
    | visit => simp [State.after, hs]
  | cancel | pass => exact hs

theorem cutShort_step (p : Plan) (n : Network) (listener : Listener) (s : State) (m : Move) :
    (step p n listener s m).cutShort = true ↔ s.cutShort = true ∨ Cuts p s m := by
  constructor
  · intro h
    cases m with
    | target i => exact cuts_of_stepTarget h
    | assertion i j =>
      simp only [step, stepAssertion] at h
      split at h
      · next hv ht =>
        split at h
        · next hj ha => exact cuts_of_stepTask hv ht ha hj h
        · exact .inl h
      · exact .inl h
    | cancel | pass => exact .inl h
  · rintro (h | h)
    · exact (change_step m).cutShort_mono h
    · exact h.cutShort

/-- A run is cut short by one of the moves of its schedule. -/
theorem cutShort_follow_iff : (follow p n listener schedule s).cutShort = true ↔
    s.cutShort = true ∨ ∃ m s', Makes p n listener schedule s m s' ∧ Cuts p s' m := by
  induction schedule generalizing s with
  | nil =>
    refine ⟨.inl, ?_⟩
    rintro (h | ⟨m, s', h, -⟩)
    · exact h
    · cases h
  | cons m schedule ih =>
    have hfollow : follow p n listener (m :: schedule) s =
        follow p n listener schedule (step p n listener s m) := rfl
    rw [hfollow, ih, cutShort_step]
    constructor
    · rintro ((h | h) | ⟨m', s', h, hcuts⟩)
      · exact .inl h
      · exact .inr ⟨m, s, .here, h⟩
      · exact .inr ⟨m', s', .later h, hcuts⟩
    · rintro (h | ⟨m', s', h, hcuts⟩)
      · exact .inl (.inl h)
      · cases h with
        | here => exact .inl (.inr hcuts)
        | later h => exact .inr ⟨m', s', h, hcuts⟩

/-! ### Work that is over -/

/-- Nothing is left to do at a place. -/
inductive State.Past (s : State) (i j : Nat) : Prop
  | visit (hv : s.visits[i]? = some .done) : Past s i j
  | task {c : Device.Connection} {tasks : List Task} {fault : Option Fault}
      (hv : s.visits[i]? = some (.visiting c tasks)) (hj : tasks[j]? = some (.done fault)) :
      Past s i j

theorem VisitStep.past {k : Nat} {v v' : Visit} {effect : Effect} (hv : s.visits[k]? = some v)
    (h : VisitStep p n listener s k v v' effect) (hs : s.Past i j) :
    (s.after k v' effect).Past i j ∧ historyOf i j effect.events = [] := by
  by_cases hki : k = i
  · subst hki
    have hset : (s.after k v' effect).visits[k]? = some v' := by
      have hlt : k < s.visits.length := (List.getElem?_eq_some_iff.1 hv).1
      simp [State.after, hlt]
    cases hs with
    | visit hv' =>
      obtain rfl := Option.some.inj (hv.symm.trans hv')
      cases h
    | task hv' hj =>
      obtain rfl := Option.some.inj (hv.symm.trans hv')
      cases h with
      | closed | failed => exact ⟨.visit hset, rfl⟩
      | @task j' t a c tasks task task' e ht ha hj' hstep =>
        -- A task that is done takes no step, so this is another one.
        have hne : j' ≠ j := by
          rintro rfl
          obtain rfl := Option.some.inj (hj'.symm.trans hj)
          cases hstep
        refine ⟨.task hset (by rw [List.getElem?_set_ne hne, hj]), ?_⟩
        exact hstep.history_ne fun h => hne (congrArg Prod.snd h)
  · have hsame : (s.after k v' effect).visits[i]? = s.visits[i]? := by
      simp [State.after, List.getElem?_set_ne hki]
    refine ⟨?_, h.history_ne hki j⟩
    cases hs with
    | visit hv' => exact .visit (hsame.trans hv')
    | task hv' hj => exact .task (hsame.trans hv') hj

theorem Change.past {events : List Event} (h : Change p n listener s s')
    (hs : s.Past i j ∧ s.history i j = events) : s'.Past i j ∧ s'.history i j = events := by
  obtain ⟨hpast, hevents⟩ := hs
  have hsame {s' : State} (hv : s'.visits = s.visits) (he : s'.events = s.events) :
      s'.Past i j ∧ s'.history i j = events := by
    refine ⟨?_, by rw [State.history, he]; exact hevents⟩
    cases hpast with
    | visit hv' => exact .visit (hv ▸ hv')
    | task hv' hj => exact .task (hv ▸ hv') hj
  cases h with
  | work h =>
    cases h with
    | still => exact hsame rfl rfl
    | visit hv hstep =>
      obtain ⟨hpast', hnone⟩ := hstep.past hv hpast
      exact ⟨hpast', by rw [history_after, hnone, List.append_nil, hevents]⟩
  | cancel | pass => exact hsame rfl rfl

theorem Sound.past_of_recorded {r : Result} (hs : Sound p n listener s)
    (hr : .recorded i j r ∈ s.events) : s.Past i j := by
  have he : .recorded i j r ∈ s.history i j := mem_history.2 ⟨hr, rfl⟩
  have hnil : s.history i j ≠ [] := List.ne_nil_of_mem he
  obtain ⟨t, ht, hlt⟩ := hs.places _ hr i j rfl
  have ha : t.assertions[j]? = some t.assertions[j] := List.getElem?_eq_getElem hlt
  obtain ⟨v, hv, hvisited⟩ := hs.visited ht
  cases hvisited with
  | waiting h | admitted h => exact absurd (h j) hnil
  | skipped | refused | closed => exact .visit hv
  | visiting h =>
    obtain ⟨task, hj, hcourse⟩ := h.course ha
    cases hcourse with
    | skipped | brokenOff | recorded => exact .task hv hj
    | waiting hh | ready hh | asking hh | answered hh | judged hh =>
      rw [hh] at he
      simp [exchange] at he

/-- Nothing is recorded at a place that was left out. -/
theorem Makes.not_recorded {s'' : State} {r : Result} (h : Makes p n listener schedule s m s')
    (hstep : step p n listener s' m = s'') (hpast : s''.Past i j) (hh : s''.history i j = []) :
    .recorded i j r ∉ (follow p n listener schedule s).events := by
  intro hr
  subst hstep
  have hend := h.follow_induction (fun _ _ hs hc => hc.past hs) ⟨hpast, hh⟩
  have hm : .recorded i j r ∈ (follow p n listener schedule s).history i j :=
    mem_history.2 ⟨hr, rfl⟩
  rw [hend.2] at hm
  cases hm

theorem Makes.passed_not_recorded {r : Result}
    (h : Makes p n listener schedule (.start p) (.target i) s')
    (hv : s'.visits[i]? = some .waiting) (hfree : s'.visits.countP Visit.isActive < p.workers)
    (hs : s'.isStopped p = true) :
    .recorded i j r ∉ (follow p n listener schedule (.start p)).events := by
  obtain ⟨t, ht, hvisited⟩ := h.sound.target hv
  have hstep : step p n listener s' (.target i) = s'.after i .done { cuts := true } :=
    step_target hv (.leftOut hfree hs) nofun
  have hlt : i < s'.visits.length := (List.getElem?_eq_some_iff.1 hv).1
  have hdone : (s'.after i .done { cuts := true }).visits[i]? = some .done := by
    simp [State.after, hlt]
  cases hvisited with
  | waiting hh =>
    exact h.not_recorded hstep (.visit hdone) ((frame_after rfl i _).history.trans (hh j))

theorem Makes.leftOut_not_recorded {a : Assertion} {c : Device.Connection} {tasks : List Task}
    {r : Result} (h : Makes p n listener schedule (.start p) (.assertion i j) s')
    (hv : s'.visits[i]? = some (.visiting c tasks)) (ht : p.targets[i]? = some t)
    (ha : t.assertions[j]? = some a) (hj : tasks[j]? = some .waiting)
    (hfree : tasks.countP Task.isActive < p.parallel) (hs : s'.isStopped p = true) :
    .recorded i j r ∉ (follow p n listener schedule (.start p)).events := by
  have hstep : step p n listener s' (.assertion i j) =
      s'.after i (.visiting c (tasks.set j (.done none))) { cuts := true } :=
    step_assertion hv ht ha hj (.leftOut hfree hs)
  have hlt : i < s'.visits.length := (List.getElem?_eq_some_iff.1 hv).1
  have hvisit : (s'.after i (.visiting c (tasks.set j (.done none))) { cuts := true }).visits[i]? =
      some (.visiting c (tasks.set j (.done none))) := by
    simp [State.after, hlt]
  have htask : (tasks.set j (.done none))[j]? = some (.done none) := by
    simp [(List.getElem?_eq_some_iff.1 hj).1]
  cases h.sound.visits i t _ ht hv with
  | visiting hsession =>
    cases hsession.courses j a _ ha hj with
    | waiting hh =>
      exact h.not_recorded hstep (.task hvisit htask) ((frame_after rfl i _).history.trans hh)

theorem Change.events_subset (h : Change p n listener s s') : s.events ⊆ s'.events := by
  cases h with
  | work h =>
    cases h with
    | still => exact List.Subset.refl _
    | visit => exact List.subset_append_left ..
  | cancel | pass => exact List.Subset.refl _

theorem Makes.events_subset (h : Makes p n listener schedule s m s') :
    s'.events ⊆ (follow p n listener schedule s).events :=
  h.follow_induction (P := fun s'' => s'.events ⊆ s''.events)
    (fun _ _ hs hc => List.Subset.trans hs hc.events_subset) (change_step m).events_subset

/-! ### Causes -/

/-- The target is passed by, because the run is stopped. -/
def PassedBy (p : Plan) (n : Network) (listener : Listener) (schedule : List Move) (i : Nat) :
    Prop :=
  ∃ s', Makes p n listener schedule (.start p) (.target i) s' ∧ Cuts p s' (.target i)

/-- The request at the place fails, and the run is stopped when it notices the fault. -/
def Place.Interrupted (p : Plan) (n : Network) (listener : Listener) (schedule : List Move)
    (x : Place) (e : Fault) : Prop :=
  ∃ s' c tasks,
    Makes p n listener schedule (.start p) (.assertion x.position.1 x.position.2) s' ∧
    s'.visits[x.position.1]? = some (.visiting c tasks) ∧
    tasks[x.position.2]? = some (.answered (.error e)) ∧ s'.isStopped p = true

/-- What a run that counts as cancelled was cancelled for. -/
inductive Curtailed (p : Plan) (n : Network) (listener : Listener) (schedule : List Move)
    (s : State) : Prop
  /-- An assertion has no result. -/
  | missing {x : Place} (hx : x ∈ p.places)
      (h : ∀ r, .recorded x.position.1 x.position.2 r ∉ s.events) :
      Curtailed p n listener schedule s
  /-- The result of an assertion is the failure of its request. -/
  | interrupted {x : Place} {r : Result} {e : Fault} (hx : x ∈ p.places) (hy : x.Yields p n s r)
      (hr : r.error = some e) (he : (e.asKind? .fetch).isSome = true)
      (hi : x.Interrupted p n listener schedule e) : Curtailed p n listener schedule s
  /-- A target was passed by that has no assertions. -/
  | passed {i : Nat} {t : Target} (ht : p.targets[i]? = some t) (hnone : t.assertions = [])
      (h : PassedBy p n listener schedule i) : Curtailed p n listener schedule s

/-- A failed request is the error of its result. -/
theorem Place.result_of_failed (x : Place) (he : (e.asKind? .fetch).isSome = true) :
    ∃ r, x.result (.error e) = .ok r ∧ r.error = some e := by
  refine ⟨_, rfl, ?_⟩
  simp [stamp, he]

/-- The request that was asked at a place is the one whose outcome decides in the end. -/
theorem Sound.decided {c : Device.Connection} {timeout : Binary64}
    {outcome : Except Fault Device.Answer} (hs : Sound p n listener s) (hover : s.isOver = true)
    (hx : x ∈ p.places)
    (hasked : .asked x.position.1 x.position.2 c x.assertion.path timeout ∈ s.events)
    (ho : (n.fetch x.position.1 x.position.2 c x.assertion.path timeout).outcome = outcome) :
    (∃ r, x.Yields p n s r ∧ x.result outcome = .ok r) ∨
      ∃ b, x.BreaksOff p n s b ∧ x.result outcome = .error b := by
  have hm : .asked x.position.1 x.position.2 c x.assertion.path timeout ∈
      s.history x.position.1 x.position.2 := mem_history.2 ⟨hasked, rfl⟩
  obtain hnil | ⟨r, hy⟩ | ⟨b, hb⟩ := hs.settled hover hx
  · rw [hnil] at hm
    cases hm
  · have hyields := hy
    obtain ⟨c', limit, timeout', -, hh, hr⟩ := hyields
    rw [hh] at hm
    obtain ⟨rfl, rfl⟩ : c = c' ∧ timeout = timeout' := by simpa [exchange] using hm
    exact .inl ⟨r, hy, ho ▸ hr⟩
  · have hbreaks := hb
    obtain ⟨c', limit, timeout', -, hh, hr⟩ := hbreaks
    rw [hh] at hm
    obtain ⟨rfl, rfl⟩ : c = c' ∧ timeout = timeout' := by simpa [exchange] using hm
    exact .inr ⟨b, hb, ho ▸ hr⟩

theorem Makes.interrupted {c : Device.Connection} {tasks : List Task}
    (h : Makes p n listener schedule (.start p) m s')
    (hover : (follow p n listener schedule (.start p)).isOver = true) (hx : x ∈ p.places)
    (hv : s'.visits[x.position.1]? = some (.visiting c tasks))
    (hj : tasks[x.position.2]? = some (.answered (.error e)))
    (he : (e.asKind? .fetch).isSome = true) :
    ∃ r, x.Yields p n (follow p n listener schedule (.start p)) r ∧ r.error = some e := by
  obtain ⟨ht, ha⟩ := mem_places.1 hx
  cases h.sound.visits _ _ _ ht hv with
  | visiting hsession =>
    cases hsession.courses _ _ _ ha hj with
    | @answered timeout outcome hh ho =>
      have hasked : .asked x.position.1 x.position.2 c x.assertion.path timeout ∈ s'.events :=
        mem_events_of_history (by rw [hh]; simp [exchange])
      obtain ⟨r, hr, herror⟩ := x.result_of_failed he
      obtain ⟨r', hy, hr'⟩ | ⟨b, -, hb⟩ := (sound_follow p n listener schedule).decided hover hx
        (h.events_subset hasked) ho
      · obtain rfl := Except.ok.inj (hr.symm.trans hr')
        exact ⟨r, hy, herror⟩
      · rw [hr] at hb
        cases hb

theorem curtailed_of_cuts (h : Makes p n listener schedule (.start p) m s') (hc : Cuts p s' m)
    (hover : (follow p n listener schedule (.start p)).isOver = true) :
    Curtailed p n listener schedule (follow p n listener schedule (.start p)) := by
  have hcuts := hc
  cases hc with
  | @passed i hv hfree hs =>
    obtain ⟨t, ht, -⟩ := h.sound.target hv
    cases ha : t.assertions with
    | nil => exact .passed ht ha ⟨s', h, hcuts⟩
    | cons a as =>
      have hx : ⟨(i, 0), t, a⟩ ∈ p.places := mem_places.2 ⟨ht, by rw [ha]; rfl⟩
      exact .missing hx fun r => h.passed_not_recorded hv hfree hs
  | @leftOut i j t a c tasks hv ht ha hj hfree hs =>
    have hx : ⟨(i, j), t, a⟩ ∈ p.places := mem_places.2 ⟨ht, ha⟩
    exact .missing hx fun r => h.leftOut_not_recorded hv ht ha hj hfree hs
  | @interrupted i j t a c tasks e hv ht ha hj he hs =>
    have hx : ⟨(i, j), t, a⟩ ∈ p.places := mem_places.2 ⟨ht, ha⟩
    obtain ⟨r, hy, hr⟩ := h.interrupted hover hx hv hj he
    exact .interrupted hx hy hr he ⟨s', c, tasks, h, hv, hj, hs⟩

theorem Curtailed.cutShort
    (h : Curtailed p n listener schedule (follow p n listener schedule (.start p)))
    (hover : (follow p n listener schedule (.start p)).isOver = true)
    (hf : (follow p n listener schedule (.start p)).failures = []) :
    (follow p n listener schedule (.start p)).cutShort = true := by
  cases h with
  | @missing x hx hnone =>
    by_contra hcut
    have hplaces := (sound_follow p n listener schedule).places_eq hover hf (by simpa using hcut)
    rw [← hplaces] at hx
    obtain ⟨r, hr⟩ := mem_positions.1 (of_decide_eq_true (List.mem_filter.1 hx).2)
    exact hnone r hr
  | @interrupted x r e hx hy hr he hi =>
    obtain ⟨s', c, tasks, hm, hv, hj, hs⟩ := hi
    obtain ⟨ht, ha⟩ := mem_places.1 hx
    exact cutShort_follow_iff.2 (.inr ⟨_, s', hm, .interrupted hv ht ha hj he hs⟩)
  | passed ht hnone hp =>
    obtain ⟨s', hm, hc⟩ := hp
    exact cutShort_follow_iff.2 (.inr ⟨_, s', hm, hc⟩)

theorem cutShort_iff_curtailed
    (hover : (follow p n listener schedule (.start p)).isOver = true)
    (hf : (follow p n listener schedule (.start p)).failures = []) :
    (follow p n listener schedule (.start p)).cutShort = true ↔
      Curtailed p n listener schedule (follow p n listener schedule (.start p)) := by
  refine ⟨fun h => ?_, fun h => h.cutShort hover hf⟩
  obtain h | ⟨m, s', hm, hc⟩ := cutShort_follow_iff.1 h
  · cases h
  · exact curtailed_of_cuts hm hc hover

/-- A stop that comes after the results of all assertions cuts no assertion. -/
theorem Curtailed.passedBy_of_late
    (h : Curtailed p n listener (before ++ after)
      (follow p n listener (before ++ after) (.start p)))
    (hlate : ∀ m s', Makes p n listener before (.start p) m s' → s'.isStopped p = false)
    (hall : ∀ x ∈ p.places, ∃ r,
      .recorded x.position.1 x.position.2 r ∈ (follow p n listener before (.start p)).events) :
    ∃ i t, p.targets[i]? = some t ∧ t.assertions = [] ∧
      PassedBy p n listener (before ++ after) i := by
  cases h with
  | @missing x hx hnone =>
    obtain ⟨r, hr⟩ := hall x hx
    refine absurd ?_ (hnone r)
    rw [follow, List.foldl_append]
    exact follow_induction (P := fun s => .recorded x.position.1 x.position.2 r ∈ s.events)
      (fun _ _ hs hc => hc.events_subset hs) after hr
  | @interrupted x r e hx hy hr he hi =>
    obtain ⟨s', c, tasks, hm, hv, hj, hs⟩ := hi
    obtain hm | hm := makes_append hm
    · rw [hlate _ s' hm] at hs
      cases hs
    · -- The task is over before the stop, so it is not the one that notices it.
      obtain ⟨q, hq⟩ := hall x hx
      have hpast := (sound_follow p n listener before).past_of_recorded hq
      obtain ⟨hpast', -⟩ := hm.induction (fun _ _ hs hc => hc.past hs) ⟨hpast, rfl⟩
      cases hpast' with
      | visit hv' => cases hv.symm.trans hv'
      | task hv' hj' =>
        cases hv.symm.trans hv'
        cases hj.symm.trans hj'
  | passed ht hnone hp => exact ⟨_, _, ht, hnone, hp⟩

/-- A run with an outcome counts as cancelled exactly if an assertion has no result, or a request
failed and the run was stopped when it noticed, or a target without assertions was passed by. If
the stop comes after the results of all assertions, it is only for such a target. -/
theorem cancelled_iff_curtailed (p : Plan) (n : Network) (listener : Listener)
    (schedule : List Move) {s : State} {o : Outcome}
    (hs : s = follow p n listener schedule (.start p)) (hover : s.isOver = true)
    (hok : (conclude s).outcome = .ok o) :
    (o.cancelled = true ↔ Curtailed p n listener schedule s) ∧
    ∀ before after, schedule = before ++ after →
      (∀ m s', Makes p n listener before (.start p) m s' → s'.isStopped p = false) →
      (∀ x ∈ p.places, ∃ r,
        .recorded x.position.1 x.position.2 r ∈ (follow p n listener before (.start p)).events) →
      (o.cancelled = true ↔ ∃ i t, p.targets[i]? = some t ∧ t.assertions = [] ∧
        PassedBy p n listener schedule i) := by
  subst hs
  obtain ⟨hf, rfl⟩ := conclude_eq_ok_iff.1 hok
  have hcut := cutShort_iff_curtailed hover hf
  refine ⟨hcut, ?_⟩
  rintro before after rfl hlate hall
  constructor
  · intro h
    exact (hcut.1 h).passedBy_of_late hlate hall
  · rintro ⟨i, t, ht, hnone, hp⟩
    exact hcut.2 (.passed ht hnone hp)

theorem cancelled_iff_curtailed_small :
    let s := follow smallPlan calmNetwork .silent cancelledSchedule (.start smallPlan)
    s.isOver = true ∧ (conclude s).outcome = .ok s.outcome ∧ s.outcome.cancelled = true ∧
      Curtailed smallPlan calmNetwork .silent cancelledSchedule s := by
  intro s
  have hok : (conclude s).outcome = .ok s.outcome := conclude_eq_ok_iff.2 ⟨rfl, rfl⟩
  have hcancelled : s.outcome.cancelled = true := rfl
  exact ⟨rfl, hok, hcancelled, (cancelled_iff_curtailed smallPlan calmNetwork .silent
    cancelledSchedule rfl rfl hok).1.1 hcancelled⟩

/-- A target with an assertion, and one without any. -/
def idlePlan : Plan :=
  { smallPlan with
    targets := [⟨"router", .none, [askPresence "/interfaces"]⟩, ⟨"idle", .none, []⟩] }

/-- The run is cancelled after the result of the only assertion. -/
def lateSchedule : List Move :=
  [.target 0, .target 0] ++ List.replicate 5 (.assertion 0 0) ++ [.target 0, .cancel, .target 1]

/-- The only assertion has passed, and yet the run counts as cancelled. -/
theorem cancelled_without_cause :
    let s := follow idlePlan calmNetwork .silent lateSchedule (.start idlePlan)
    s.isOver = true ∧ (conclude s).outcome = .ok s.outcome ∧ s.outcome.cancelled = true ∧
      ∀ x ∈ idlePlan.places, ∃ r, .recorded x.position.1 x.position.2 r ∈ s.events ∧
        r.verdict = .pass := by
  intro s
  refine ⟨rfl, conclude_eq_ok_iff.2 ⟨rfl, rfl⟩, rfl, fun x hx => ?_⟩
  obtain rfl := List.mem_singleton.1 hx
  exact ⟨_, List.mem_of_getElem? (i := 3) rfl, rfl⟩

end StateCheck.Run
