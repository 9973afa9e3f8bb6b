import StateCheck.Proofs.Number.Order
import StateCheck.Proofs.Run.Queue

/-!
The invariant of runs that do one piece of work after another: work is taken on only while the run
is not stopped, and it is left out only after the stop.
-/

namespace StateCheck.Run

variable {p : Plan} {n : Network} {listener : Listener} {s : State} {i j : Nat} {m : Move}
  {t : Target} {v v' : Visit} {e : Effect} {ev : Event} {limit : Binary64} {x y : Place}
  {c : Device.Connection} {tasks : List Task} {schedule : List Move}

/-! ### Time -/

/-- Time does not run backwards while a device is asked. -/
def Network.Forward (n : Network) : Prop :=
  ∀ i j c path timeout, Binary64.zero.le (n.fetch i j c path timeout).seconds = true

/-- The time that a session is given to open, or a request to be answered. -/
def Event.limit? : Event → Option Binary64
  | opened _ c | refused _ c _ => some c.timeout
  | asked _ _ _ _ timeout => some timeout
  | _ => none

/-- The time limit of the plan, or what is left before the deadline if that is less. -/
def State.allowance (p : Plan) (s : State) : Binary64 :=
  match p.deadline with
  | none => p.timeout
  | some d => p.timeout.min (d.sub s.clock)

theorem timeLimit_of_running (hs : s.isStopped p = false)
    (hp : Binary64.zero.lt p.timeout = true) :
    s.timeLimit p = s.allowance p ∧ Binary64.zero.lt (s.allowance p) = true := by
  have hleft := (Bool.or_eq_false_iff.1 hs).2
  unfold State.timeLimit State.allowance
  unfold State.remaining at hleft ⊢
  cases hd : p.deadline with
  | none => exact ⟨rfl, hp⟩
  | some d =>
    have hpos : Binary64.zero.lt (p.timeout.min (d.sub s.clock)) = true :=
      Binary64.zero_lt_min hp (by simpa [hd] using hleft)
    exact ⟨Binary64.max_eq_right hpos, hpos⟩

theorem TaskStep.seconds {a : Assertion} {task task' : Task} {seconds : Binary64}
    (h : TaskStep p n listener s i j t a c tasks task task' e) (hn : n.Forward)
    (he : e.seconds = some seconds) : Binary64.zero.le seconds = true := by
  cases h with
  | replied hr =>
    cases he
    exact hr ▸ hn ..
  | leftOut | begun | asked | judged | brokenOff | recorded => cases he

theorem VisitStep.seconds {seconds : Binary64} (h : VisitStep p n listener s i v v' e)
    (hn : n.Forward) (he : e.seconds = some seconds) : Binary64.zero.le seconds = true := by
  cases h with
  | task ht ha hj hstep => exact hstep.seconds hn he
  | leftOut | admitted | refused | opened | closed | failed => cases he

theorem VisitStep.reading (h : VisitStep p n listener s i v v' e) (hn : n.Forward)
    (hs : s.clock.Reading) : (s.after i v' e).clock.Reading := by
  cases he : e.seconds with
  | none => simpa [State.after, he] using hs
  | some seconds => simpa [State.after, he] using (hs.add (h.seconds hn he)).1

/-- A run that is stopped stays so. -/
theorem VisitStep.isStopped (h : VisitStep p n listener s i v v' e) (hn : n.Forward)
    (hclock : s.clock.Reading) (hs : s.isStopped p = true) :
    (s.after i v' e).isStopped p = true := by
  unfold State.isStopped State.remaining at hs ⊢
  rcases Bool.or_eq_true_iff.1 hs with hs | hs
  · simp [State.after, hs]
  · refine Bool.or_eq_true_iff.2 (.inr ?_)
    cases hd : p.deadline with
    | none => simp [hd] at hs
    | some d =>
      have hle : (d.sub s.clock).le .zero = true := by simpa [hd] using hs
      cases he : e.seconds with
      | none => simpa [State.after, he] using hle
      | some seconds =>
        simpa [State.after, he] using hclock.sub_le_zero_of_add (h.seconds hn he) hle

/-! ### Beginnings -/

/-- A piece of work has been taken on: a visit whose session is not open yet, or a task whose
request has not been made. -/
def Visit.Begun : Visit → Prop
  | admitted => True
  | visiting _ tasks => .ready ∈ tasks
  | waiting | done => False

theorem connection_timeout (settings : Option Settings) (limit : Binary64) (t : Target) :
    (connection settings limit t).timeout = limit := by
  cases settings <;> rfl

/-- Sessions are opened and requests made for work that was taken on. -/
theorem VisitStep.begun (h : VisitStep p n listener s i v v' e) (hev : ev ∈ e.events)
    (hlimit : ev.limit? = some limit) : v.Begun ∧ limit = s.timeLimit p := by
  cases h with
  | refused ht hc hn =>
    rcases List.mem_pair.1 hev with rfl | rfl
    · cases hlimit
      exact ⟨trivial, hc ▸ connection_timeout ..⟩
    · cases hlimit
  | opened ht hc hn =>
    obtain rfl := List.mem_singleton.1 hev
    cases hlimit
    exact ⟨trivial, hc ▸ connection_timeout ..⟩
  | task ht ha hj hstep =>
    cases hstep with
    | asked =>
      obtain rfl := List.mem_singleton.1 hev
      cases hlimit
      exact ⟨List.mem_of_getElem? hj, rfl⟩
    | @replied timeout reply hr =>
      cases hi : reply.interrupts <;> simp only [hi, if_true, if_false, Bool.false_eq_true] at hev
      · obtain rfl := List.mem_singleton.1 hev
        cases hlimit
      · rcases List.mem_pair.1 hev with rfl | rfl <;> cases hlimit
    | recorded hl => rcases List.mem_pair.1 hev with rfl | rfl <;> cases hlimit
    | leftOut | begun | judged | brokenOff => cases hev
  | closed hover hf =>
    obtain rfl := List.mem_singleton.1 hev
    cases hlimit
  | failed hover hf => rcases List.mem_pair.1 hev with rfl | rfl <;> cases hlimit
  | leftOut | admitted => cases hev

theorem Visit.Begun.active (h : v.Begun) : v ≠ .done ∧ v ≠ .waiting := by
  constructor <;> rintro rfl <;> exact h

/-- Work is taken on only while the run is not stopped, and before anything else begins. -/
theorem Turn.not_stopped_of_begun (h : Turn p n listener s m i v' e) (hs : s.InTurn)
    {w : Visit} (hw : w ∈ (s.after i v' e).visits) (hbegun : w.Begun) :
    (s.after i v' e).isStopped p = false := by
  obtain ⟨v, hi, hstep⟩ := h.visitStep
  -- All other visits are over or wait.
  obtain rfl : w = v' := by
    obtain rfl | rfl | rfl := hs.visits.mem_set hi hw
    · rfl
    · exact absurd rfl hbegun.active.1
    · exact absurd rfl hbegun.active.2
  cases h with
  | visit hi hstep hover =>
    cases hstep with
    | admitted hfree hs => simpa [State.isStopped, State.remaining, State.after] using hs
    | opened ht hc hn => simp [Visit.Begun] at hbegun
    | leftOut | refused | closed | failed => exact hbegun.elim
    | task ht ha hj hstep => exact absurd (hover _ _ rfl) (hstep.not_all_isOver hj)
  | @task i j t a c tasks task task' e hat ht ha hstep =>
    have htasks := hs.tasks c tasks (List.mem_of_getElem? hat.visit.get)
    obtain rfl | hover | hwaiting := htasks.mem_set hat.task hbegun
    · cases hstep with
      | begun hfree hs => simpa [State.isStopped, State.remaining, State.after] using hs
    · cases hover
    · cases hwaiting

/-! ### Before and behind -/

/-- Everything before the place whose turn it is is over. -/
theorem State.At.past_of_before {task : Task} (hat : s.At i j c tasks task)
    (hs : Sound p n listener s) (hx : x ∈ p.places) (hbefore : Before x.position (i, j)) :
    s.Past x.position.1 x.position.2 := by
  obtain ⟨ht, ha⟩ := mem_places.1 hx
  obtain ⟨v, hv, hvisited⟩ := hs.visited ht
  rcases hbefore with hlt | ⟨heq, hlt⟩
  · obtain rfl := hat.visit.before _ v hlt hv
    exact .visit hv
  · dsimp only at heq hlt
    obtain rfl := Option.some.inj (hv.symm.trans (heq ▸ hat.visit.get))
    cases hvisited with
    | visiting hsession =>
      obtain ⟨task', hj', -⟩ := hsession.course ha
      have hover := hat.task.before _ task' hlt hj'
      cases task' with
      | done fault => exact .task hv hj'
      | waiting | ready | asking | answered | judged => cases hover

/-- Nothing has happened behind the place whose turn it is. -/
theorem State.At.history_eq_nil {task : Task} (hat : s.At i j c tasks task)
    (hs : Sound p n listener s) (hturn : s.InTurn) (hx : x ∈ p.places)
    (hbefore : Before (i, j) x.position) : s.history x.position.1 x.position.2 = [] := by
  obtain ⟨ht, ha⟩ := mem_places.1 hx
  obtain ⟨v, hv, hvisited⟩ := hs.visited ht
  rcases hbefore with hlt | ⟨heq, hlt⟩
  · obtain rfl := (hturn.visits i _ _ v hlt hat.visit.get hv).resolve_left hat.visit.isOpen
    cases hvisited with
    | waiting hh => exact hh _
  · dsimp only at heq hlt
    obtain rfl := Option.some.inj (hv.symm.trans (heq ▸ hat.visit.get))
    cases hvisited with
    | visiting hsession =>
      obtain ⟨task', hj', hcourse⟩ := hsession.course ha
      have htasks := hturn.tasks c tasks (List.mem_of_getElem? hat.visit.get)
      obtain rfl := (htasks j _ _ task' hlt hat.task.get hj').resolve_left hat.task.isOpen
      cases hcourse with
      | waiting hh => exact hh

/-- A task that ends without a request was left out because of the stop. -/
theorem TaskStep.isStopped_of_done {a : Assertion} {task : Task} {fault : Option Fault}
    (h : TaskStep p n listener s i j t a c tasks task (.done fault) e)
    (hcourse : Course n listener s i j t a c task) (hnone : s.history i j = []) :
    s.isStopped p = true := by
  cases h with
  | leftOut hfree hs => exact hs
  | brokenOff =>
    cases hcourse with
    | answered hh =>
      rw [hh] at hnone
      cases hnone
  | recorded =>
    cases hcourse with
    | judged hh =>
      rw [hh] at hnone
      cases hnone

/-- Where work ends without a request, it was left out because of the stop, or the session of its
target was refused. -/
theorem VisitStep.past_cases (h : VisitStep p n listener s i v v' e) (hs : Sound p n listener s)
    (hv : s.visits[i]? = some v) (hx : x ∈ p.places)
    (hnone : s.history x.position.1 x.position.2 = [])
    (hpast : (s.after i v' e).Past x.position.1 x.position.2) :
    s.Past x.position.1 x.position.2 ∨ s.isStopped p = true ∨ ∃ f, .failed i f ∈ e.events := by
  obtain ⟨ht, ha⟩ := mem_places.1 hx
  have hlt : i < s.visits.length := (List.getElem?_eq_some_iff.1 hv).1
  by_cases hi : i = x.position.1
  · subst hi
    have hset : (s.after x.position.1 v' e).visits[x.position.1]? = some v' := by
      simp [State.after, hlt]
    cases h with
    | leftOut hfree hstop => exact .inr (.inl hstop)
    | admitted =>
      cases hpast with
      | visit hv' | task hv' => cases hset.symm.trans hv'
    | refused => exact .inr (.inr ⟨_, List.mem_cons_of_mem _ (List.mem_singleton_self _)⟩)
    | opened =>
      cases hpast with
      | visit hv' => cases hset.symm.trans hv'
      | task hv' hj =>
        cases hset.symm.trans hv'
        rw [List.getElem?_map, Option.map_eq_some_iff] at hj
        obtain ⟨-, -, hj⟩ := hj
        cases hj
    | closed hover | failed hover =>
      cases hs.visits _ _ _ ht hv with
      | visiting hsession =>
        obtain ⟨task, hj, -⟩ := hsession.course ha
        have hdone := List.all_eq_true.1 hover task (List.mem_of_getElem? hj)
        cases task with
        | done fault => exact .inl (.task hv hj)
        | waiting | ready | asking | answered | judged => cases hdone
    | @task j t a c tasks task task' e ht' ha' hj hstep =>
      cases hpast with
      | visit hv' => cases hset.symm.trans hv'
      | @task c' tasks' fault hv' hj' =>
        cases hset.symm.trans hv'
        by_cases hne : j = x.position.2
        · subst hne
          rw [List.getElem?_set_self (List.getElem?_eq_some_iff.1 hj).1] at hj'
          obtain rfl := Option.some.inj hj'
          obtain rfl := Option.some.inj (ht.symm.trans ht')
          obtain rfl := Option.some.inj (ha.symm.trans ha')
          cases hs.visits _ _ _ ht hv with
          | visiting hsession =>
            exact .inr (.inl (hstep.isStopped_of_done (hsession.courses _ _ _ ha hj) hnone))
        · rw [List.getElem?_set_ne hne] at hj'
          exact .inl (.task hv hj')
  · have hsame : (s.after i v' e).visits[x.position.1]? = s.visits[x.position.1]? := by
      simp [State.after, List.getElem?_set_ne hi]
    cases hpast with
    | visit hv' => exact .inl (.visit (hsame ▸ hv'))
    | task hv' hj => exact .inl (.task (hsame ▸ hv') hj)

/-! ### One after another -/

/-- What holds of a run that does one piece of work after another. -/
structure Serial (p : Plan) (n : Network) (listener : Listener) (s : State) : Prop where
  sound : Sound p n listener s
  inTurn : s.InTurn
  clock : s.clock.Reading
  begun : ∀ v ∈ s.visits, v.Begun → s.isStopped p = false
  /-- An assertion is left out only after the stop. -/
  skipped : ∀ x ∈ p.places, s.Past x.position.1 x.position.2 →
    s.history x.position.1 x.position.2 = [] → s.isStopped p = true ∨ s.failures ≠ []
  /-- The assertions that were asked about are the first ones. -/
  first : ∀ x ∈ p.places, ∀ y ∈ p.places, Before x.position y.position →
    s.history y.position.1 y.position.2 ≠ [] →
    s.history x.position.1 x.position.2 ≠ [] ∨ s.failures ≠ []
  sorted : s.records.Pairwise fun a b => a.le b = true

theorem failures_after (i : Nat) (v' : Visit) (e : Effect) (h : s.failures ≠ []) :
    (s.after i v' e).failures ≠ [] := by
  obtain ⟨f, hf⟩ := List.exists_mem_of_ne_nil _ h
  exact List.ne_nil_of_mem (mem_failures.2 (List.mem_append_left e.events (mem_failures.1 hf)))

theorem TaskStep.ready_of_first {a : Assertion} {task task' : Task}
    (h : TaskStep p n listener s i j t a c tasks task task' e)
    (hcourse : Course n listener s i j t a c task) (hold : s.history i j = [])
    (hnew : historyOf i j e.events ≠ []) : task = .ready := by
  cases h with
  | asked => rfl
  | replied =>
    cases hcourse with
    | asking hh =>
      rw [hh] at hold
      cases hold
  | recorded =>
    cases hcourse with
    | judged hh =>
      rw [hh] at hold
      cases hold
  | leftOut | begun | judged | brokenOff => exact absurd rfl hnew

/-- The first thing that happens at a place is that a task is asked that was taken on. -/
theorem Turn.begun_of_first (h : Turn p n listener s m i v' e) (hs : Sound p n listener s)
    (hy : y ∈ p.places) (hold : s.history y.position.1 y.position.2 = [])
    (hnew : historyOf y.position.1 y.position.2 e.events ≠ []) :
    ∃ c tasks task, s.At y.position.1 y.position.2 c tasks task ∧
      (Visit.visiting c tasks).Begun := by
  obtain ⟨ht, ha⟩ := mem_places.1 hy
  obtain ⟨v, hi, hstep⟩ := h.visitStep
  obtain rfl : i = y.position.1 := by
    by_contra hne
    exact hnew (hstep.history_ne hne _)
  cases h with
  | visit hi hstep hover =>
    cases hstep with
    | task ht ha hj hstep => exact absurd (hover _ _ rfl) (hstep.not_all_isOver hj)
    | leftOut | admitted | refused | opened | closed | failed => exact absurd rfl hnew
  | @task _ j t a c tasks task task' e hat ht' ha' hstep =>
    obtain rfl : j = y.position.2 := by
      by_contra hne
      exact hnew (hstep.history_ne fun h => hne (congrArg Prod.snd h))
    obtain rfl := Option.some.inj (ht.symm.trans ht')
    obtain rfl := Option.some.inj (ha.symm.trans ha')
    refine ⟨c, tasks, task, hat, ?_⟩
    cases hs.visits _ _ _ ht hat.visit.get with
    | visiting hsession =>
      obtain rfl := hstep.ready_of_first (hsession.courses _ _ _ ha hat.task.get) hold hnew
      exact List.mem_of_getElem? hat.task.get

/-- A step records at most one result, at the place whose turn it is. -/
theorem Turn.records_cases (h : Turn p n listener s m i v' e) :
    e.events.filterMap Event.record? = [] ∨
      ∃ j c tasks task r, s.At i j c tasks task ∧
        e.events.filterMap Event.record? = [⟨i, j, r⟩] := by
  cases h with
  | visit hi hstep hover =>
    cases hstep with
    | task ht ha hj hstep => exact absurd (hover _ _ rfl) (hstep.not_all_isOver hj)
    | leftOut | admitted | refused | opened | closed | failed => exact .inl rfl
  | task hat ht ha hstep =>
    cases hstep with
    | recorded => exact .inr ⟨_, _, _, _, _, hat, rfl⟩
    | @replied timeout reply hr =>
      refine .inl ?_
      cases reply.interrupts <;> rfl
    | leftOut | begun | asked | judged | brokenOff => exact .inl rfl

/-- What is recorded comes behind everything that was recorded. -/
theorem Serial.le_of_at {task : Task} {r : Record} {result : Result} (hs : Serial p n listener s)
    (hat : s.At i j c tasks task) (hr : r ∈ s.records) : r.le ⟨i, j, result⟩ = true := by
  have hrecorded := mem_records.1 hr
  obtain ⟨y, hy, hposition, -⟩ := hs.sound.yields hrecorded
  have hnot : ¬Before (i, j) y.position := by
    intro hbefore
    have hnone := hat.history_eq_nil hs.sound hs.inTurn hy hbefore
    rw [hposition] at hnone
    have hm : .recorded r.target r.assertion r.result ∈ s.history r.target r.assertion :=
      mem_history.2 ⟨hrecorded, rfl⟩
    rw [hnone] at hm
    cases hm
  rw [hposition] at hnot
  rw [Record.le_iff]
  simp only [Before, Record.position, Prod.mk.injEq] at hnot ⊢
  omega

theorem Serial.after (hs : Serial p n listener s) (hn : n.Forward)
    (h : Turn p n listener s m i v' e) : Serial p n listener (s.after i v' e) := by
  obtain ⟨v, hi, hstep⟩ := h.visitStep
  refine ⟨hs.sound.after hi.get hstep, h.inTurn hs.inTurn, hstep.reading hn hs.clock,
    fun w hw => h.not_stopped_of_begun hs.inTurn hw, ?_, ?_, ?_⟩
  · intro x hx hpast hnone
    rw [history_after, List.append_eq_nil_iff] at hnone
    obtain hpast | hstop | ⟨f, hf⟩ := hstep.past_cases hs.sound hi.get hx hnone.1 hpast
    · exact (hs.skipped x hx hpast hnone.1).imp (hstep.isStopped hn hs.clock)
        (failures_after i v' e)
    · exact .inl (hstep.isStopped hn hs.clock hstop)
    · exact .inr (List.ne_nil_of_mem (mem_failures.2 (List.mem_append_right _ hf)))
  · intro x hx y hy hbefore hasked
    have hgrown : s.history x.position.1 x.position.2 ≠ [] ∨ s.failures ≠ [] := by
      by_cases hold : s.history y.position.1 y.position.2 = []
      · rw [history_after, hold, List.nil_append] at hasked
        obtain ⟨c, tasks, task, hat, hbegun⟩ := h.begun_of_first hs.sound hy hold hasked
        have hpast := hat.past_of_before hs.sound hx hbefore
        have hrunning := hs.begun _ (List.mem_of_getElem? hat.visit.get) hbegun
        by_cases hnone : s.history x.position.1 x.position.2 = []
        · refine .inr ((hs.skipped x hx hpast hnone).resolve_left ?_)
          simp [hrunning]
        · exact .inl hnone
      · exact hs.first x hx y hy hbefore hold
    refine hgrown.imp (fun hne => ?_) (failures_after i v' e)
    rw [history_after]
    exact List.append_ne_nil_of_left_ne_nil hne _
  · rw [records_eq, State.after, List.filterMap_append, ← records_eq]
    obtain hnone | ⟨j, c, tasks, task, r, hat, hr⟩ := h.records_cases
    · simpa [hnone] using hs.sorted
    · rw [hr]
      refine List.pairwise_append.2 ⟨hs.sorted, List.pairwise_singleton _ _, fun a ha b hb => ?_⟩
      obtain rfl := List.mem_singleton.1 hb
      exact hs.le_of_at hat ha

theorem serial_start (p : Plan) (n : Network) (listener : Listener) (cancelled : Bool) :
    Serial p n listener { State.start p with stopping := cancelled } := by
  obtain ⟨prelude, hprelude⟩ := exists_prelude p n listener cancelled
  have hwaiting : ∀ v ∈ { State.start p with stopping := cancelled }.visits, v = .waiting := by
    simp [State.start]
  refine ⟨hprelude ▸ sound_follow p n listener prelude, inTurn_start p cancelled,
    Binary64.reading_zero, fun v hv hbegun => ?_, fun x _ hpast => ?_, fun _ _ _ _ _ h => ?_,
    List.Pairwise.nil⟩
  · exact absurd (hwaiting v hv) hbegun.active.2
  · cases hpast with
    | visit hv | task hv => cases hwaiting _ (List.mem_of_getElem? hv)
  · exact absurd rfl h

theorem InQueue.serial (hq : InQueue p n listener schedule s) (hworkers : p.workers = 1)
    (hparallel : p.parallel = 1) (hn : n.Forward) (hs : Serial p n listener s) :
    Serial p n listener (follow p n listener schedule s) :=
  hq.induction hworkers hparallel (fun _ hs => hs.inTurn)
    (fun _ _ _ _ _ hs hturn => hs.after hn hturn) hs

theorem Makes.serial {s' : State} (h : Makes p n listener schedule s m s')
    (hq : InQueue p n listener schedule s) (hworkers : p.workers = 1) (hparallel : p.parallel = 1)
    (hn : n.Forward) (hs : Serial p n listener s) : Serial p n listener s' ∧ s'.Queued m := by
  induction h with
  | here => exact ⟨hs, hq.1⟩
  | @later m m' rest s s' h ih =>
    refine ih hq.2 ?_
    have hfirst : InQueue p n listener [m] s := ⟨hq.1, trivial⟩
    exact hfirst.serial hworkers hparallel hn hs

end StateCheck.Run
