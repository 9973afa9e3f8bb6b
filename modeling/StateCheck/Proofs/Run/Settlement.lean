import StateCheck.Proofs.Run.Completeness
import StateCheck.Proofs.Run.Logs

/-!
What has become of every target and every assertion when a run is over.
-/

namespace StateCheck.Run

variable {p : Plan} {n : Network} {listener : Listener} {s : State} {i j : Nat} {x : Place}
  {c : Device.Connection} {tasks : List Task}

/-- Every run within limits can be worked to its end. -/
theorem exists_end (p : Plan) (workers parallel : Int) (n : Network) (listener : Listener)
    (schedule : List Move) :
    let q := p.limited workers parallel
    ∃ rest, rest.all Move.isWork = true ∧ rest.length ≤ q.moves ∧
      (follow q n listener (schedule ++ rest) (.start q)).isOver = true := by
  intro q
  have hsound := sound_follow q n listener schedule
  obtain ⟨rest, hwork, hlen, hover⟩ :=
    exists_isOver hsound (atLeastOne_pos workers) (atLeastOne_pos parallel)
  refine ⟨rest, hwork, hlen.trans (left_follow_le q n listener schedule), ?_⟩
  rwa [follow, List.foldl_append]

/-- At the place one request was made, over a connection to its target, and the evaluation of what
came of it broke off. Nothing else happened there. -/
def Place.BreaksOff (p : Plan) (n : Network) (s : State) (x : Place) (b : Breakdown) : Prop :=
  ∃ c limit timeout, c = connection p.settings limit x.target ∧
    s.history x.position.1 x.position.2 =
      exchange x.position.1 x.position.2 c x.assertion timeout ∧
    x.result (n.fetch x.position.1 x.position.2 c x.assertion.path timeout).outcome = .error b

/-- Nothing is recorded for an evaluation that breaks off. -/
theorem Place.BreaksOff.not_recorded {b : Breakdown} {r : Result} (h : x.BreaksOff p n s b) :
    .recorded x.position.1 x.position.2 r ∉ s.events := by
  intro hr
  obtain ⟨c, limit, timeout, -, hh, -⟩ := h
  have hm : .recorded x.position.1 x.position.2 r ∈ s.history x.position.1 x.position.2 :=
    mem_history.2 ⟨hr, rfl⟩
  rw [hh] at hm
  simp [exchange] at hm

theorem mem_positions :
    x.position ∈ s.records.map Record.position ↔
      ∃ r, .recorded x.position.1 x.position.2 r ∈ s.events := by
  rw [List.mem_map]
  constructor
  · rintro ⟨r, hr, hx⟩
    rw [← hx]
    exact ⟨r.result, mem_records.1 hr⟩
  · rintro ⟨r, hr⟩
    exact ⟨⟨x.position.1, x.position.2, r⟩, mem_records.2 hr, rfl⟩

theorem Session.settled (h : Session p n listener s x.position.1 x.target c tasks)
    (hover : tasks.all Task.isOver = true)
    (ha : x.target.assertions[x.position.2]? = some x.assertion) :
    s.history x.position.1 x.position.2 = [] ∧ s.cutShort = true ∨
      (∃ r, x.Yields p n s r) ∨ ∃ b, x.BreaksOff p n s b := by
  obtain ⟨limit, hc⟩ := h.limit
  obtain ⟨task, hj, hcourse⟩ := h.course ha
  have hdone := List.all_eq_true.1 hover task (List.mem_of_getElem? hj)
  cases hcourse with
  | skipped hh hcut => exact .inl ⟨hh, hcut⟩
  | @brokenOff timeout b hh hb =>
    exact .inr (.inr ⟨b, c, limit, timeout, hc, hh, by simp [Place.result, hb, Except.map]⟩)
  | recorded hh hr =>
    exact .inr (.inl ⟨_, c, limit, _, hc, hh, by simp [Place.result, hr, Except.map]⟩)
  | waiting | ready | asking | answered | judged => cases hdone

theorem Sound.done (hs : Sound p n listener s) (hover : s.isOver = true) (hx : x ∈ p.places) :
    Visited p n listener s x.position.1 x.target .done := by
  obtain ⟨v, hv, hvisited⟩ := hs.visited (mem_places.1 hx).1
  have hdone := List.all_eq_true.1 hover v (List.mem_of_getElem? hv)
  cases v with
  | done => exact hvisited
  | waiting | admitted | visiting => cases hdone

/-- When a run is over, every assertion was either not asked about or its request was answered. -/
theorem Sound.settled (hs : Sound p n listener s) (hover : s.isOver = true) (hx : x ∈ p.places) :
    s.history x.position.1 x.position.2 = [] ∨
      (∃ r, x.Yields p n s r) ∨ ∃ b, x.BreaksOff p n s b := by
  cases hs.done hover hx with
  | skipped hh => exact .inl (hh _)
  | refused hh => exact .inl (hh _)
  | closed h hall hf => exact (h.settled hall (mem_places.1 hx).2).imp And.left id

theorem Logbook.done (hs : Logbook p n listener s) (hover : s.isOver = true)
    (hi : i < s.visits.length) : Logged p n listener s i .done := by
  have hv : s.visits[i]? = some s.visits[i] := List.getElem?_eq_getElem hi
  have hdone := List.all_eq_true.1 hover _ (List.getElem_mem hi)
  have hlogged := hs.visits i _ hv
  cases hvisit : s.visits[i] with
  | done => rwa [hvisit] at hlogged
  | waiting | admitted | visiting =>
    rw [hvisit] at hdone
    cases hdone

theorem Logbook.logged_eq_nil (hs : Logbook p n listener s) (hi : s.visits.length ≤ i) :
    s.logged i = [] := by
  refine List.eq_nil_iff_forall_not_mem.2 fun e he => ?_
  obtain ⟨hm, hk⟩ := mem_logOf.1 he
  have hlt := hs.targets e hm i hk
  omega

/-- The log of a target whose session was opened and is closed. -/
structure WholeSession (i : Nat) (c : Device.Connection) (talk ending log : List Event) : Prop where
  log : log = .opened i c :: (talk ++ .closed i c :: ending)
  talk : ∀ e ∈ talk, e.Over i c
  ending : ∀ e ∈ ending, ∃ f, e = .failed i f

section

variable {talk ending log : List Event}

theorem WholeSession.countP (h : WholeSession i c talk ending log) {q : Event → Bool}
    (htalk : ∀ e, e.Over i c → q e = false) (hend : ∀ f, q (.failed i f) = false) :
    log.countP q = (q (.opened i c)).toNat + (q (.closed i c)).toNat := by
  have ht : talk.countP q = 0 := List.countP_eq_zero.2 fun e he => by simp [htalk e (h.talk e he)]
  have he : ending.countP q = 0 := by
    refine List.countP_eq_zero.2 fun e he => ?_
    obtain ⟨f, rfl⟩ := h.ending e he
    simp [hend f]
  rw [h.log, List.countP_cons, List.countP_append, List.countP_cons, ht, he]
  cases q (.opened i c) <;> cases q (.closed i c) <;> rfl

/-- Only the talk of a session has a place. -/
theorem WholeSession.historyOf (h : WholeSession i c talk ending log) (j : Nat) :
    historyOf i j log = Run.historyOf i j talk := by
  have he : Run.historyOf i j ending = [] := by
    refine List.filter_eq_nil_iff.2 fun e he => ?_
    obtain ⟨f, rfl⟩ := h.ending e he
    simp [Event.place?]
  simp only [h.log, Run.historyOf, List.filter_cons, List.filter_append, Event.place?] at he ⊢
  simp [he]

theorem WholeSession.mem_talk {e : Event} (h : WholeSession i c talk ending log) (he : e ∈ log)
    (ho : ∀ c', e ≠ .opened i c') (hc : ∀ c', e ≠ .closed i c') (hf : ∀ f, e ≠ .failed i f) :
    e ∈ talk := by
  rw [h.log] at he
  simp only [List.mem_cons, List.mem_append] at he
  obtain he | he | he | he := he
  · exact absurd he (ho c)
  · exact he
  · exact absurd he (hc c)
  · obtain ⟨f, rfl⟩ := h.ending e he
    exact absurd rfl (hf f)

theorem WholeSession.connection_eq {c' : Device.Connection}
    (h : WholeSession i c talk ending log) (he : .opened i c' ∈ log) : c' = c := by
  rw [h.log] at he
  simp only [List.mem_cons, List.mem_append] at he
  obtain he | he | he | he := he
  · cases he
    rfl
  · cases h.talk _ he
  · cases he
  · obtain ⟨f, hf⟩ := h.ending _ he
    cases hf

end

theorem Logbook.log_cases (hs : Logbook p n listener s) (hover : s.isOver = true) (i : Nat) :
    s.logged i = [] ∨ (∃ c e f, s.logged i = [.refused i c e, .failed i f]) ∨
      ∃ c talk ending, WholeSession i c talk ending (s.logged i) := by
  by_cases hi : i < s.visits.length
  · cases hs.done hover hi with
    | skipped h => exact .inl h
    | refused h => exact .inr (.inl ⟨_, _, _, h⟩)
    | @left t c tasks talk fault h htalk =>
      refine .inr (.inr ⟨c, talk, _, h, htalk, fun e he => ?_⟩)
      obtain ⟨f, -, rfl⟩ := Option.map_eq_some_iff.1 (Option.mem_toList.1 he)
      exact ⟨f, rfl⟩
  · exact .inl (hs.logged_eq_nil (Nat.le_of_not_lt hi))

/-- The events of the one request at a place, at which perhaps a result was recorded. -/
theorem exchange_of_settled
    (h : (∃ r, x.Yields p n s r) ∨ ∃ b, x.BreaksOff p n s b) :
    ∃ c timeout ending, s.history x.position.1 x.position.2 =
        exchange x.position.1 x.position.2 c x.assertion timeout ++ ending ∧
      ∀ e ∈ ending, ∃ r, e = .recorded x.position.1 x.position.2 r := by
  obtain ⟨r, c, limit, timeout, -, hh, -⟩ | ⟨b, c, limit, timeout, -, hh, -⟩ := h
  · exact ⟨c, timeout, _, hh, fun e he => ⟨r, List.mem_singleton.1 he⟩⟩
  · exact ⟨c, timeout, [], by rw [hh, List.append_nil], List.forall_mem_nil _⟩

end StateCheck.Run
