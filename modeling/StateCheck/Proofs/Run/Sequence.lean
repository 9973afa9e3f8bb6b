import StateCheck.Proofs.Run.Discipline
import StateCheck.Proofs.Run.Serial

/-!
Runs of one piece of work after another: they find the results of the first assertions of the
file, and nothing begins in them after they are stopped.
-/

namespace StateCheck.Run

variable {p : Plan} {n : Network} {listener : Listener} {s : State} {i : Nat} {m : Move}
  {v' : Visit} {e : Effect} {ev : Event} {limit : Binary64} {x : Place} {schedule : List Move}

/-! ### Stops -/

/-- Whatever begins begins in a state that is not stopped, with the time that is left. -/
theorem Serial.running_of_limit (hs : Serial p n listener s) (h : Turn p n listener s m i v' e)
    (hev : ev ∈ e.events) (hlimit : ev.limit? = some limit) :
    s.isStopped p = false ∧ limit = s.timeLimit p := by
  obtain ⟨v, hi, hstep⟩ := h.visitStep
  obtain ⟨hbegun, hlimit⟩ := hstep.begun hev hlimit
  exact ⟨hs.begun v (List.mem_of_getElem? hi.get) hbegun, hlimit⟩

/-- Nothing begins after the stop. -/
theorem InQueue.events_of_stopped (hq : InQueue p n listener schedule s) (hworkers : p.workers = 1)
    (hparallel : p.parallel = 1) (hn : n.Forward) (hs : Serial p n listener s)
    (hstop : s.isStopped p = true) : ∃ es,
      (follow p n listener schedule s).events = s.events ++ es ∧ ∀ ev ∈ es, ev.limit? = none := by
  have h := hq.induction (P := fun s' => Serial p n listener s' ∧ s'.isStopped p = true ∧
      ∃ es, s'.events = s.events ++ es ∧ ∀ ev ∈ es, ev.limit? = none) hworkers hparallel
    (fun _ hs => hs.1.inTurn) ?_ ⟨hs, hstop, [], (List.append_nil _).symm, List.forall_mem_nil _⟩
  · exact h.2.2
  rintro s' m i v' e ⟨hs, hstop, es, hes, hnone⟩ hturn
  obtain ⟨v, hi, hstep⟩ := hturn.visitStep
  refine ⟨hs.after hn hturn, hstep.isStopped hn hs.clock hstop, es ++ e.events, ?_, ?_⟩
  · rw [State.after, hes, List.append_assoc]
  · refine List.forall_mem_append.2 ⟨hnone, fun ev hev => ?_⟩
    refine Option.eq_none_iff_forall_ne_some.2 fun limit hlimit => ?_
    rw [(hs.running_of_limit hturn hev hlimit).1] at hstop
    cases hstop

/-! ### Ends -/

theorem filter_eq_take {α : Type} {q : α → Bool} {xs : List α}
    (h : xs.Pairwise fun x y => q y = true → q x = true) :
    xs.filter q = xs.take (xs.filter q).length := by
  induction xs with
  | nil => rfl
  | cons x xs ih =>
    obtain ⟨hx, hxs⟩ := List.pairwise_cons.1 h
    by_cases hq : q x = true
    · rw [List.filter_cons_of_pos hq, List.length_cons, List.take_succ_cons, ← ih hxs]
    · have hnone : ∀ y ∈ xs, ¬q y = true := fun y hy hqy => hq (hx y hy hqy)
      rw [List.filter_cons_of_neg hq, List.filter_eq_nil_iff.2 hnone, List.length_nil,
        List.take_zero]

/-- A run that ends without a failure has a result for everything that it asked about. -/
theorem Sound.yields_of_asked (hs : Sound p n listener s) (hover : s.isOver = true)
    (hf : s.failures = []) (hx : x ∈ p.places)
    (hasked : s.history x.position.1 x.position.2 ≠ []) : ∃ r, x.Yields p n s r := by
  cases hs.done hover hx with
  | skipped hh => exact absurd (hh _) hasked
  | refused hh => exact absurd (hh _) hasked
  | @closed c tasks hsession hall hfailed =>
    have hfault : tasks.findSome? Task.fault? = none := by
      refine Option.eq_none_iff_forall_ne_some.2 fun f hfault => ?_
      obtain ⟨f', hf'⟩ : ∃ f',
          (n.close x.position.1 c).or (tasks.findSome? Task.fault?) = some f' := by
        rw [hfault]
        cases n.close x.position.1 c <;> exact ⟨_, rfl⟩
      have hm := mem_failures.2 (hfailed f' hf')
      rw [hf] at hm
      cases hm
    obtain ⟨limit, hc⟩ := hsession.limit
    obtain ⟨task, hj, hcourse⟩ := hsession.course (mem_places.1 hx).2
    have hm : task ∈ tasks := List.mem_of_getElem? hj
    have hdone := List.all_eq_true.1 hall task hm
    have hnone := List.findSome?_eq_none_iff.1 hfault task hm
    cases hcourse with
    | skipped hh => exact absurd hh hasked
    | recorded hh hr => exact ⟨_, c, limit, _, hc, hh, by simp [Place.result, hr, Except.map]⟩
    | brokenOff => cases hnone
    | waiting | ready | asking | answered | judged => cases hdone

/-- The place at which a device is asked. -/
def Event.asked? : Event → Option (Nat × Nat)
  | asked i j .. => some (i, j)
  | _ => none

theorem isSome_asked? (ev : Event) : ev.asked?.isSome = ev.isAsked := by
  cases ev <;> rfl

theorem mem_asked? {k : Nat × Nat} : k ∈ s.events.filterMap Event.asked? ↔
    ∃ c path timeout, .asked k.1 k.2 c path timeout ∈ s.events := by
  rw [List.mem_filterMap]
  constructor
  · rintro ⟨ev, hev, hk⟩
    cases ev with
    | asked i j c path timeout =>
      cases hk
      exact ⟨c, path, timeout, hev⟩
    | opened | refused | replied | interrupted | recorded | told | closed | failed => cases hk
  · rintro ⟨c, path, timeout, hev⟩
    exact ⟨_, hev, rfl⟩

theorem nodup_asked? (hs : Sound p n listener s) (hover : s.isOver = true) :
    (s.events.filterMap Event.asked?).Nodup := by
  refine List.nodup_iff_count_le_one.2 fun k => ?_
  have hle := (requests_le_one hs hover k.1 k.2).1
  rw [State.history, historyOf, List.countP_filter] at hle
  rw [List.count, List.countP_filterMap]
  refine Nat.le_trans (Nat.le_of_eq (List.countP_congr fun ev _ => ?_)) hle
  cases ev <;> simp [Event.asked?, Event.isAsked, Event.place?, Prod.ext_iff]

/-- In a run that ends without a failure, results are recorded where anything has happened. -/
theorem Sound.mem_places_iff (hs : Sound p n listener s) (hover : s.isOver = true)
    (hf : s.failures = []) :
    x ∈ s.places p ↔ x ∈ p.places ∧ s.history x.position.1 x.position.2 ≠ [] := by
  rw [State.places, List.mem_filter, decide_eq_true_eq, mem_positions]
  refine and_congr_right fun hx => ?_
  constructor
  · rintro ⟨r, hr⟩
    exact List.ne_nil_of_mem (mem_history.2 ⟨hr, rfl⟩)
  · intro hne
    obtain ⟨r, c, limit, timeout, -, hh, -⟩ := hs.yields_of_asked hover hf hx hne
    exact ⟨r, mem_events_of_history (by rw [hh]; simp)⟩

/-- In a run that ends without a failure as many results are recorded as requests are made. -/
theorem Sound.length_places (hs : Sound p n listener s) (hover : s.isOver = true)
    (hf : s.failures = []) : (s.places p).length = s.events.countP Event.isAsked := by
  have hnodup : ((s.places p).map Place.position).Nodup := by
    rw [hs.positions]
    exact ((perm_sorted s).map Record.position).nodup_iff.2 hs.nodup_records
  have hperm : ((s.places p).map Place.position).Perm (s.events.filterMap Event.asked?) := by
    refine (List.perm_ext_iff_of_nodup hnodup (nodup_asked? hs hover)).2 fun k => ?_
    rw [mem_asked?, List.mem_map]
    constructor
    · rintro ⟨x, hx, rfl⟩
      obtain ⟨hx, hne⟩ := (hs.mem_places_iff hover hf).1 hx
      obtain ⟨r, c, limit, timeout, -, hh, -⟩ := hs.yields_of_asked hover hf hx hne
      exact ⟨c, _, timeout, mem_events_of_history (by rw [hh]; exact List.mem_cons_self ..)⟩
    · rintro ⟨c, path, timeout, hasked⟩
      obtain ⟨t, ht, hlt⟩ := hs.places _ hasked k.1 k.2 rfl
      have hx : ⟨k, t, t.assertions[k.2]⟩ ∈ p.places :=
        mem_places.2 ⟨ht, List.getElem?_eq_getElem hlt⟩
      have hne : s.history k.1 k.2 ≠ [] := List.ne_nil_of_mem (mem_history.2 ⟨hasked, rfl⟩)
      exact ⟨_, (hs.mem_places_iff hover hf).2 ⟨hx, hne⟩, rfl⟩
  rw [← List.length_map Place.position, hperm.length_eq, List.length_filterMap_eq_countP]
  exact List.countP_congr fun ev _ => by rw [isSome_asked?]

/-- The results are those of the first assertions, of as many as requests are made. -/
theorem Serial.places_eq_take (hs : Serial p n listener s) (hover : s.isOver = true)
    (hf : s.failures = []) : s.places p = p.places.take (s.events.countP Event.isAsked) := by
  rw [← hs.sound.length_places hover hf]
  refine filter_eq_take ?_
  refine (List.pairwise_map.1 (pairwise_places p)).imp_of_mem fun hx hy hbefore hr => ?_
  have hy' : _ ∈ s.places p := List.mem_filter.2 ⟨hy, hr⟩
  have hne := ((hs.sound.mem_places_iff hover hf).1 hy').2
  have hx' := (hs.sound.mem_places_iff hover hf).2
    ⟨hx, (hs.first _ hx _ hy hbefore hne).resolve_right (by simp [hf])⟩
  exact (List.mem_filter.1 hx').2

/-- The results come in the order in which they were recorded. -/
theorem Serial.results_eq (hs : Serial p n listener s) :
    s.results = s.records.map Record.result := by
  rw [State.results, List.mergeSort_of_pairwise hs.sorted]

/-! ### The whole run -/

/-- New events of a move in a run of one piece of work after another. -/
theorem Serial.running_of_new (hs : Serial p n listener s) (hworkers : p.workers = 1)
    (hparallel : p.parallel = 1) (hq : s.Queued m)
    (hev : ev ∈ (step p n listener s m).events.drop s.events.length)
    (hlimit : ev.limit? = some limit) : s.isStopped p = false ∧ limit = s.timeLimit p := by
  obtain hstill | ⟨i, v', e, h⟩ := still_or_turn hs.inTurn hworkers hparallel hq
  · rw [hstill, List.drop_length] at hev
    cases hev
  · rw [h.step_eq, State.after, List.drop_left] at hev
    exact hs.running_of_limit h hev hlimit

/-- A run with one worker that evaluates one assertion at a time, whenever it is stopped: there is
only one, and if it has an outcome, the results are those of the first assertions of the file, of
as many as requests were made, and the listener was told them in this order. No session is opened
and no request made after the stop, and each of them is given the time limit of the plan or what is
left before the deadline, which is more than nothing. -/
theorem sequence_of_inQueue (p : Plan) (n : Network) (listener : Listener) (cancelled : Bool)
    (hn : n.Forward) :
    let q := p.limited 1 1
    let start := { State.start q with stopping := cancelled }
    (∃ schedule, InQueue q n listener schedule start ∧
      (follow q n listener schedule start).isOver = true) ∧
    ∀ schedule, InQueue q n listener schedule start →
      let s := follow q n listener schedule start
      (s.isOver = true → s = finish q n listener cancelled ∧
        ∀ o, (conclude s).outcome = .ok o →
          List.Forall₂ (Place.Yields q n s) (q.places.take (s.events.countP Event.isAsked))
            o.results ∧ s.tellings = o.results) ∧
      (∀ before after, schedule = before ++ after →
        (follow q n listener before start).isStopped q = true →
        ∀ ev ∈ s.events.drop (follow q n listener before start).events.length,
          ev.limit? = none) ∧
      (Binary64.zero.lt p.timeout = true →
        ∀ m s', Makes q n listener schedule start m s' →
          ∀ ev ∈ (step q n listener s' m).events.drop s'.events.length, ∀ limit ∈ ev.limit?,
            limit = s'.allowance q ∧ Binary64.zero.lt limit = true) := by
  intro q start
  have hserial : Serial q n listener start := serial_start q n listener cancelled
  refine ⟨exists_inQueue hserial.sound hserial.inTurn (atLeastOne_pos 1) (atLeastOne_pos 1), ?_⟩
  intro schedule hq s
  refine ⟨fun hover => ⟨?_, fun o ho => ?_⟩, ?_, fun hp m s' hm ev hev limit hlimit => ?_⟩
  · exact hq.follow_eq rfl rfl hserial.sound hserial.inTurn (Nat.le_of_eq (left_start q)) hover
  · obtain ⟨hf, rfl⟩ := conclude_eq_ok_iff.1 ho
    have hs : Serial q n listener s := hq.serial rfl rfl hn hserial
    have hyields := hs.sound.results
    rw [hs.places_eq_take hover hf] at hyields
    refine ⟨hyields, ?_⟩
    obtain ⟨prelude, hprelude⟩ := exists_prelude q n listener cancelled
    have hfollow : s = follow q n listener (prelude ++ schedule) (.start q) := by
      rw [follow, List.foldl_append]
      exact congrArg (follow q n listener schedule) hprelude
    rw [hfollow, tellings_follow, ← hfollow, ← hs.results_eq]
    rfl
  · rintro before after rfl hstop
    obtain ⟨hbefore, hafter⟩ := inQueue_append.1 hq
    have hs := hbefore.serial rfl rfl hn hserial
    obtain ⟨es, hes, hnone⟩ := hafter.events_of_stopped rfl rfl hn hs hstop
    have hsplit : s = follow q n listener after (follow q n listener before start) :=
      List.foldl_append
    rw [hsplit, hes, List.drop_left]
    exact hnone
  · obtain ⟨hs, hqueued⟩ := hm.serial hq rfl rfl hn hserial
    obtain ⟨hrunning, rfl⟩ := hs.running_of_new rfl rfl hqueued hev hlimit
    obtain ⟨heq, hpos⟩ := timeLimit_of_running hrunning hp
    exact ⟨heq, heq ▸ hpos⟩

/-- A plan whose deadline is sooner than its time limit. -/
def hastyPlan : Plan :=
  { smallPlan with timeout := .ofNat 5, deadline := some (.ofNat 2) }

/-- Every answer takes three seconds. -/
def slowNetwork : Network :=
  { calmNetwork with fetch := fun _ _ _ _ _ => ⟨.ok ⟨none, true⟩, .ofNat 3, false, false⟩ }

/-- The deadline passes while the first device is asked, so the second assertion is left out. -/
theorem sequence_of_slow :
    let q := hastyPlan.limited 1 1
    let start := { State.start q with stopping := false }
    ∃ schedule, InQueue q slowNetwork .silent schedule start ∧
      let s := follow q slowNetwork .silent schedule start
      s.isOver = true ∧ (conclude s).outcome = .ok s.outcome ∧ s.outcome.cancelled = true ∧
        List.Forall₂ (Place.Yields q slowNetwork s) (q.places.take 1) s.outcome.results ∧
        s.tellings = s.outcome.results ∧
        ∀ m s', Makes q slowNetwork .silent schedule start m s' →
          ∀ ev ∈ (step q slowNetwork .silent s' m).events.drop s'.events.length,
            ∀ limit ∈ ev.limit?, Binary64.zero.lt limit = true := by
  intro q start
  have hn : slowNetwork.Forward := by
    have hthree : Binary64.zero.le (.ofNat 3) = true := by decide +kernel
    intro i j c path timeout
    simp only [slowNetwork]
    exact hthree
  obtain ⟨⟨schedule, hq, hover⟩, hall⟩ :=
    sequence_of_inQueue hastyPlan slowNetwork .silent false hn
  obtain ⟨hend, -, hlimit⟩ := hall schedule hq
  obtain ⟨hfinish, hresults⟩ := hend hover
  refine ⟨schedule, hq, ?_⟩
  intro s
  have hs : s = finish q slowNetwork .silent false := hfinish
  have hcut : s.outcome.cancelled = true := by
    rw [hs]
    decide +kernel
  have hf : s.failures = [] := by
    rw [hs, ← List.isEmpty_iff]
    decide +kernel
  have hk : s.events.countP Event.isAsked = 1 := by
    rw [hs]
    decide +kernel
  have hok : (conclude s).outcome = .ok s.outcome := conclude_eq_ok_iff.2 ⟨hf, rfl⟩
  obtain ⟨hyields, htold⟩ := hresults s.outcome hok
  rw [hk] at hyields
  refine ⟨hover, hok, hcut, hyields, htold, fun m s' hm ev hev limit hmem => ?_⟩
  exact (hlimit (by decide +kernel) m s' hm ev hev limit hmem).2

end StateCheck.Run
