import StateCheck.Proofs.Run.Settlement

/-!
The discipline of sessions: each is opened at most once and closed once, all requests over it are
made and answered in between, and the limits of the plan hold at every moment.
-/

namespace StateCheck.Run

/-! ### Limits -/

namespace Event

def isOpened : Event → Bool
  | opened .. => true
  | _ => false

/-- Whether the event is an attempt to open a session. -/
def isAttempt : Event → Bool
  | opened .. | refused .. => true
  | _ => false

def isClosed : Event → Bool
  | closed .. => true
  | _ => false

def isAsked : Event → Bool
  | asked .. => true
  | _ => false

def isReplied : Event → Bool
  | replied .. => true
  | _ => false

end Event

def Visit.isOpen : Visit → Bool
  | visiting .. => true
  | _ => false

def Task.isAsking : Task → Bool
  | asking _ => true
  | _ => false

/-- The requests of a visit that are on their way. -/
def Visit.asking : Visit → Nat
  | visiting _ tasks => tasks.countP Task.isAsking
  | _ => 0

/-- No more visits and tasks are active than the plan allows, and the events tell how many
sessions are open and how many requests are on their way. -/
structure Limits (p : Plan) (s : State) : Prop where
  workers : s.visits.countP Visit.isActive ≤ p.workers
  parallel : ∀ (i : Nat) c tasks, s.visits[i]? = some (Visit.visiting c tasks) →
    tasks.countP Task.isActive ≤ p.parallel
  sessions : s.events.countP Event.isOpened =
    s.events.countP Event.isClosed + s.visits.countP Visit.isOpen
  requests : ∀ (i : Nat) v, s.visits[i]? = some v →
    (s.logged i).countP Event.isAsked = (s.logged i).countP Event.isReplied + v.asking

variable {p : Plan} {n : Network} {listener : Listener} {s s' : State} {i j : Nat} {t : Target}
  {a : Assertion} {c : Device.Connection} {tasks : List Task}

theorem countP_set_add {α : Type} {q : α → Bool} {xs : List α} {k : Nat} {x : α}
    (hx : xs[k]? = some x) (y : α) :
    (xs.set k y).countP q + (q x).toNat = xs.countP q + (q y).toNat := by
  induction xs generalizing k with
  | nil => cases hx
  | cons z xs ih =>
    cases k with
    | zero =>
      obtain rfl : z = x := Option.some.inj hx
      simp only [List.set_cons_zero, List.countP_cons]
      cases q z <;> cases q y <;> simp
    | succ k =>
      have h := ih hx
      simp only [List.set_cons_succ, List.countP_cons]
      omega

theorem countP_waiting (q : Task → Bool) (h : q .waiting = false) (t : Target) :
    (t.assertions.map fun _ => Task.waiting).countP q = 0 := by
  refine List.countP_eq_zero.2 fun task htask => ?_
  obtain ⟨a, -, rfl⟩ := List.mem_map.1 htask
  simp [h]

theorem TaskStep.parallel_le {task task' : Task} {e : Effect}
    (h : TaskStep p n listener s i j t a c tasks task task' e) (hj : tasks[j]? = some task)
    (hle : tasks.countP Task.isActive ≤ p.parallel) :
    (tasks.set j task').countP Task.isActive ≤ p.parallel := by
  have hset := countP_set_add (q := Task.isActive) hj task'
  cases h <;> simp only [Task.isActive, Bool.toNat_false, Bool.toNat_true] at hset <;> omega

theorem TaskStep.asking {task task' : Task} {e : Effect}
    (h : TaskStep p n listener s i j t a c tasks task task' e) :
    (logOf i e.events).countP Event.isAsked + task.isAsking.toNat =
      (logOf i e.events).countP Event.isReplied + task'.isAsking.toNat := by
  cases h with
  | @replied timeout reply hr =>
    cases reply.interrupts <;>
      simp [logOf, Event.target?, Event.isAsked, Event.isReplied, Task.isAsking]
  | leftOut | begun | asked | judged | brokenOff | recorded =>
    simp [logOf, Event.target?, Event.isAsked, Event.isReplied, Task.isAsking]

theorem VisitStep.workers_le {v v' : Visit} {e : Effect} (h : VisitStep p n listener s i v v' e)
    (hv : s.visits[i]? = some v) (hle : s.visits.countP Visit.isActive ≤ p.workers) :
    (s.visits.set i v').countP Visit.isActive ≤ p.workers := by
  have hset := countP_set_add (q := Visit.isActive) hv v'
  cases h <;> simp only [Visit.isActive, Bool.toNat_false, Bool.toNat_true] at hset <;> omega

theorem VisitStep.sessions {v v' : Visit} {e : Effect} (h : VisitStep p n listener s i v v' e) :
    e.events.countP Event.isOpened + v.isOpen.toNat =
      e.events.countP Event.isClosed + v'.isOpen.toNat := by
  cases h with
  | task ht ha hj hstep =>
    cases hstep with
    | @replied timeout reply hr =>
      cases reply.interrupts <;> simp [Event.isOpened, Event.isClosed, Visit.isOpen]
    | _ => simp [Event.isOpened, Event.isClosed, Visit.isOpen]
  | leftOut | admitted | refused | opened | closed | failed => rfl

/-- No request is on its way when all tasks are over. -/
theorem asking_of_isOver (h : tasks.all Task.isOver = true) :
    tasks.countP Task.isAsking = 0 := by
  refine List.countP_eq_zero.2 fun task htask => ?_
  have hover := List.all_eq_true.1 h task htask
  cases task with
  | done => simp [Task.isAsking]
  | _ => cases hover

theorem VisitStep.asking {v v' : Visit} {e : Effect} (h : VisitStep p n listener s i v v' e) :
    (logOf i e.events).countP Event.isAsked + v.asking =
      (logOf i e.events).countP Event.isReplied + v'.asking := by
  cases h with
  | @task j t a c tasks task task' e ht ha hj hstep =>
    have hset := countP_set_add (q := Task.isAsking) hj task'
    have hask := hstep.asking
    simp only [Visit.asking]
    omega
  | @opened t c ht hc hn =>
    have hnone := countP_waiting Task.isAsking rfl t
    simp only [Visit.asking, hnone]
    simp [logOf, Event.target?, Event.isAsked, Event.isReplied]
  | closed hover | failed hover =>
    simp only [Visit.asking, asking_of_isOver hover]
    simp [logOf, Event.target?, Event.isAsked, Event.isReplied]
  | leftOut | admitted | refused =>
    simp [logOf, Event.target?, Event.isAsked, Event.isReplied, Visit.asking]

theorem VisitStep.parallel_le {v v' : Visit} {e : Effect} {c : Device.Connection}
    {tasks : List Task} (h : VisitStep p n listener s i v v' e) (hs : Limits p s)
    (hv : s.visits[i]? = some v) (hv' : v' = .visiting c tasks) :
    tasks.countP Task.isActive ≤ p.parallel := by
  cases h with
  | opened =>
    cases hv'
    rw [countP_waiting _ rfl]
    exact Nat.zero_le _
  | task ht ha hj hstep =>
    cases hv'
    exact hstep.parallel_le hj (hs.parallel i _ _ hv)
  | leftOut | admitted | refused | closed | failed => cases hv'

theorem Limits.after {v v' : Visit} {e : Effect} (hs : Limits p s)
    (hv : s.visits[i]? = some v) (h : VisitStep p n listener s i v v' e) :
    Limits p (s.after i v' e) where
  workers := h.workers_le hv hs.workers
  parallel k c tasks hk := by
    by_cases hik : i = k
    · subst k
      have hlt : i < s.visits.length := (List.getElem?_eq_some_iff.1 hv).1
      have hv' : v' = .visiting c tasks := by simpa [State.after, List.getElem?_set, hlt] using hk
      exact h.parallel_le hs hv hv'
    · rw [State.after, List.getElem?_set_ne hik] at hk
      exact hs.parallel k c tasks hk
  sessions := by
    have hset := countP_set_add (q := Visit.isOpen) hv v'
    have hbalance := h.sessions
    have hold := hs.sessions
    simp only [State.after, List.countP_append]
    omega
  requests k w hk := by
    rw [logged_after, List.countP_append, List.countP_append]
    by_cases hik : i = k
    · subst k
      have hlt : i < s.visits.length := (List.getElem?_eq_some_iff.1 hv).1
      obtain rfl : v' = w := by simpa [State.after, List.getElem?_set, hlt] using hk
      have hbalance := h.asking
      have hold := hs.requests i v hv
      omega
    · rw [State.after, List.getElem?_set_ne hik] at hk
      rw [h.logOf_ne (Ne.symm hik)]
      exact hs.requests k w hk

theorem limits_start (p : Plan) : Limits p (.start p) := by
  have hwaiting : ∀ v ∈ (State.start p).visits, v = .waiting := by simp [State.start]
  have hnone (q : Visit → Bool) (hq : q .waiting = false) :
      (State.start p).visits.countP q = 0 :=
    List.countP_eq_zero.2 fun v hv => by simp [hwaiting v hv, hq]
  refine ⟨?_, ?_, ?_, ?_⟩
  · rw [hnone _ rfl]
    exact Nat.zero_le _
  · intro i c tasks hv
    cases hwaiting _ (List.mem_of_getElem? hv)
  · rw [hnone _ rfl]
    rfl
  · intro i v hv
    rw [hwaiting v (List.mem_of_getElem? hv)]
    rfl

theorem limits_follow (p : Plan) (n : Network) (listener : Listener) (schedule : List Move) :
    Limits p (follow p n listener schedule (.start p)) := by
  refine follow_induction ?_ schedule (limits_start p)
  intro s s' hs h
  cases h with
  | work h =>
    cases h with
    | still => exact hs
    | visit hv hstep => exact hs.after hv hstep
  | cancel | pass => exact ⟨hs.workers, hs.parallel, hs.sessions, hs.requests⟩

/-! ### Discipline -/

/-- The sessions that are open after some events. -/
def openSessions (events : List Event) : Int :=
  events.countP Event.isOpened - events.countP Event.isClosed

/-- The requests to a target that are on their way after some events. -/
def requestsUnderWay (i : Nat) (events : List Event) : Int :=
  (logOf i events).countP Event.isAsked - (logOf i events).countP Event.isReplied

/-- A session with each target is tried once at most. If it is opened it is closed once, after it
was opened. Every request is made once, over the open session of its target, and answered before
that session is closed. -/
structure Disciplined (events : List Event) : Prop where
  attempts : ∀ i, (logOf i events).countP Event.isAttempt ≤ 1
  closings : ∀ i, (logOf i events).countP Event.isClosed = (logOf i events).countP Event.isOpened
  sessions : ∀ i c, .opened i c ∈ events → [.opened i c, .closed i c].Sublist events
  requests : ∀ i j, (historyOf i j events).countP Event.isAsked ≤ 1 ∧
    (historyOf i j events).countP Event.isReplied ≤ 1
  answers : ∀ i j c path timeout, .asked i j c path timeout ∈ events →
    [.opened i c, .asked i j c path timeout, .replied i j, .closed i c].Sublist events

theorem openSessions_le (p : Plan) (n : Network) (listener : Listener) (schedule : List Move) :
    openSessions (follow p n listener schedule (.start p)).events ≤ p.workers := by
  have hs := limits_follow p n listener schedule
  have hopen : ∀ v : Visit, v.isOpen = true → v.isActive = true := by
    intro v hv
    cases v with
    | visiting => rfl
    | waiting | admitted | done => cases hv
  have hle := List.countP_mono_left (l := (follow p n listener schedule (.start p)).visits)
    fun v _ hv => hopen v hv
  have hworkers := hs.workers
  have hsessions := hs.sessions
  unfold openSessions
  omega

theorem requestsUnderWay_le (p : Plan) (n : Network) (listener : Listener)
    (schedule : List Move) (i : Nat) :
    requestsUnderWay i (follow p n listener schedule (.start p)).events ≤ p.parallel := by
  have hs := limits_follow p n listener schedule
  have hlog := logbook_follow p n listener schedule
  generalize follow p n listener schedule (.start p) = s at hs hlog
  unfold requestsUnderWay
  cases hv : s.visits[i]? with
  | none =>
    have hnil : logOf i s.events = [] := hlog.logged_eq_nil (List.getElem?_eq_none_iff.1 hv)
    rw [hnil]
    simp
  | some v =>
    have hrequests : (logOf i s.events).countP Event.isAsked =
        (logOf i s.events).countP Event.isReplied + v.asking := hs.requests i v hv
    have hasking : v.asking ≤ p.parallel := by
      cases v with
      | visiting c tasks =>
        have hactive : ∀ task : Task, task.isAsking = true → task.isActive = true := by
          intro task htask
          cases task with
          | asking => rfl
          | _ => cases htask
        have hle := List.countP_mono_left (l := tasks) fun task _ htask => hactive task htask
        exact hle.trans (hs.parallel i c tasks hv)
      | waiting | admitted | done => exact Nat.zero_le _
    omega

/-! ### Sessions of a run that is over -/

theorem attempts_le_one (hs : Logbook p n listener s) (hover : s.isOver = true) (i : Nat) :
    (s.logged i).countP Event.isAttempt ≤ 1 := by
  obtain h | ⟨c, e, f, h⟩ | ⟨c, talk, ending, h⟩ := hs.log_cases hover i
  · simp [h]
  · rw [h]
    exact Nat.le_refl 1
  · have hcount := h.countP (q := Event.isAttempt) (by rintro _ ⟨⟩ <;> rfl) fun _ => rfl
    simp [hcount, Event.isAttempt]

theorem closings_eq_openings (hs : Logbook p n listener s) (hover : s.isOver = true) (i : Nat) :
    (s.logged i).countP Event.isClosed = (s.logged i).countP Event.isOpened := by
  obtain h | ⟨c, e, f, h⟩ | ⟨c, talk, ending, h⟩ := hs.log_cases hover i
  · simp [h]
  · simp [h, Event.isClosed, Event.isOpened]
  · have hclosed := h.countP (q := Event.isClosed) (by rintro _ ⟨⟩ <;> rfl) fun _ => rfl
    have hopened := h.countP (q := Event.isOpened) (by rintro _ ⟨⟩ <;> rfl) fun _ => rfl
    simp [hclosed, hopened, Event.isClosed, Event.isOpened]

theorem closed_of_opened (hs : Logbook p n listener s) (hover : s.isOver = true)
    (h : .opened i c ∈ s.events) : [.opened i c, .closed i c].Sublist s.events := by
  have hm : .opened i c ∈ s.logged i := mem_logOf.2 ⟨h, rfl⟩
  obtain hlog | ⟨c', e, f, hlog⟩ | ⟨c', talk, ending, hlog⟩ := hs.log_cases hover i
  · rw [hlog] at hm
    cases hm
  · simp [hlog] at hm
  · obtain rfl := hlog.connection_eq hm
    have hsub : [.opened i c, .closed i c].Sublist (s.logged i) := by
      rw [hlog.log]
      have hlast : [.closed i c].Sublist (.closed i c :: ending) :=
        (List.nil_sublist ending).cons_cons _
      exact (hlast.trans (List.sublist_append_right talk _)).cons_cons _
    exact hsub.trans List.filter_sublist

theorem exchange_of_asked {path : String} {timeout : Binary64} (hs : Sound p n listener s)
    (hover : s.isOver = true) (h : .asked i j c path timeout ∈ s.events) :
    ∃ ending, s.history i j = .asked i j c path timeout :: .replied i j :: ending := by
  have he : .asked i j c path timeout ∈ s.history i j :=
    mem_history.2 ⟨h, rfl⟩
  obtain ⟨⟨⟨i', j'⟩, t, a⟩, -, -, hx, hp, -⟩ := hs.session he
  cases hp
  obtain hnil | hsettled := hs.settled hover hx
  · rw [hnil] at he
    cases he
  · obtain ⟨c', timeout', ending, hh, hend⟩ := exchange_of_settled hsettled
    refine ⟨ending, ?_⟩
    rw [hh] at he ⊢
    simp only [exchange, List.cons_append, List.nil_append, List.mem_cons] at he ⊢
    obtain he | he | he := he
    · rw [he]
    · cases he
    · obtain ⟨r, hr⟩ := hend _ he
      cases hr

theorem answered_of_asked {path : String} {timeout : Binary64} (hs : Sound p n listener s)
    (hlog : Logbook p n listener s) (hover : s.isOver = true)
    (h : .asked i j c path timeout ∈ s.events) :
    [.opened i c, .asked i j c path timeout, .replied i j, .closed i c].Sublist s.events := by
  obtain ⟨rest, hhistory⟩ := exchange_of_asked hs hover h
  have hm : .asked i j c path timeout ∈ s.logged i := mem_logOf.2 ⟨h, rfl⟩
  obtain hnil | ⟨c', e, f, hrefused⟩ | ⟨c', talk, ending, hwhole⟩ := hlog.log_cases hover i
  · rw [hnil] at hm
    cases hm
  · simp [hrefused] at hm
  · have htalk := hwhole.mem_talk hm nofun nofun nofun
    obtain rfl : c' = c := by
      cases hwhole.talk _ htalk
      rfl
    -- The request and its answer are all that the talk says of their place at first.
    have hpair : [.asked i j c' path timeout, .replied i j].Sublist talk := by
      have hplace : historyOf i j talk = s.history i j := by
        rw [← hwhole.historyOf j, State.logged, historyOf_logOf, State.history]
      have hfirst : [.asked i j c' path timeout, .replied i j].Sublist (s.history i j) := by
        rw [hhistory]
        exact ((List.nil_sublist rest).cons_cons _).cons_cons _
      rw [← hplace] at hfirst
      exact hfirst.trans List.filter_sublist
    have hlast : [.closed i c'].Sublist (.closed i c' :: ending) :=
      (List.nil_sublist ending).cons_cons _
    have hsub := (hpair.append hlast).cons_cons (.opened i c')
    rw [← hwhole.log] at hsub
    exact hsub.trans List.filter_sublist

theorem requests_le_one (hs : Sound p n listener s) (hover : s.isOver = true) (i j : Nat) :
    (s.history i j).countP Event.isAsked ≤ 1 ∧ (s.history i j).countP Event.isReplied ≤ 1 := by
  by_cases hh : s.history i j = []
  · simp [hh]
  obtain ⟨e, he⟩ := List.exists_mem_of_ne_nil _ hh
  obtain ⟨⟨⟨i', j'⟩, t, a⟩, -, -, hx, hp, -⟩ := hs.session he
  cases hp
  obtain ⟨c, timeout, ending, hexchange, hend⟩ :=
    exchange_of_settled ((hs.settled hover hx).resolve_left hh)
  have hnone (q : Event → Bool) (hq : ∀ r, q (.recorded i j r) = false) :
      ending.countP q = 0 := by
    refine List.countP_eq_zero.2 fun e he => ?_
    obtain ⟨r, rfl⟩ := hend e he
    simp [hq r]
  have hasked := hnone Event.isAsked fun _ => rfl
  have hreplied := hnone Event.isReplied fun _ => rfl
  dsimp only at hexchange
  rw [hexchange, List.countP_append, List.countP_append, hasked, hreplied]
  exact ⟨Nat.le_refl 1, Nat.le_refl 1⟩

theorem disciplined_of_isOver (hs : Sound p n listener s) (hlog : Logbook p n listener s)
    (hover : s.isOver = true) : Disciplined s.events where
  attempts := attempts_le_one hlog hover
  closings := closings_eq_openings hlog hover
  sessions _ _ h := closed_of_opened hlog hover h
  requests := requests_le_one hs hover
  answers _ _ _ _ _ h := answered_of_asked hs hlog hover h

/-- At no moment of a run are there more sessions open, or more requests to one target under way,
than the limits that it was given. Every run can be worked to its end, and when it is over its
sessions have kept to the discipline. -/
theorem sessions_disciplined (p : Plan) (workers parallel : Int) (n : Network)
    (listener : Listener) (schedule : List Move) :
    let q := p.limited workers parallel
    let s := follow q n listener schedule (.start q)
    openSessions s.events ≤ max workers 1 ∧
    (∀ i, requestsUnderWay i s.events ≤ max parallel 1) ∧
    (∃ rest, rest.all Move.isWork = true ∧ rest.length ≤ q.moves ∧
      (follow q n listener (schedule ++ rest) (.start q)).isOver = true) ∧
    (s.isOver = true → Disciplined s.events) := by
  intro q s
  have hmax (k : Int) : (atLeastOne k : Int) = max k 1 := by
    unfold atLeastOne
    omega
  refine ⟨?_, fun i => ?_, exists_end p workers parallel n listener schedule, fun hover => ?_⟩
  · rw [← hmax]
    exact openSessions_le q n listener schedule
  · rw [← hmax]
    exact requestsUnderWay_le q n listener schedule i
  · exact disciplined_of_isOver (sound_follow q n listener schedule)
      (logbook_follow q n listener schedule) hover

theorem sessions_disciplined_small :
    let q := smallPlan.limited 0 (-3)
    let s := follow q calmNetwork .silent reversedSchedule (.start q)
    s.isOver = true ∧ Disciplined s.events := by
  intro q s
  have hover : s.isOver = true := by decide +kernel
  exact ⟨hover, (sessions_disciplined smallPlan 0 (-3) calmNetwork .silent
    reversedSchedule).2.2.2 hover⟩

end StateCheck.Run
