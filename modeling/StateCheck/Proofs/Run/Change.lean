import StateCheck.Run.Execution

/-!
What a step of a run can change, and the principle of induction over runs.
-/

namespace StateCheck.Run

/-- What a step does besides moving one visit on. -/
structure Effect where
  events : List Event := []
  cuts : Bool := false
  stops : Bool := false
  seconds : Option Binary64 := none

def State.after (s : State) (i : Nat) (v : Visit) (e : Effect) : State where
  visits := s.visits.set i v
  clock := match e.seconds with
    | some seconds => s.clock.add seconds
    | none => s.clock
  stopping := s.stopping || e.stops
  cutShort := s.cutShort || e.cuts
  events := s.events ++ e.events

/-- The result as it is recorded. -/
def stamp (t : Target) (r : Result) : Result := { r with target := t.host }

/-- The steps of the evaluation of one assertion over a session. -/
inductive TaskStep (p : Plan) (n : Network) (listener : Listener) (s : State) (i j : Nat)
    (t : Target) (a : Assertion) (c : Device.Connection) (tasks : List Task) :
    Task → Task → Effect → Prop
  | leftOut (hfree : tasks.countP Task.isActive < p.parallel) (hs : s.isStopped p = true) :
      TaskStep p n listener s i j t a c tasks .waiting (.done none) { cuts := true }
  | begun (hfree : tasks.countP Task.isActive < p.parallel) (hs : s.isStopped p = false) :
      TaskStep p n listener s i j t a c tasks .waiting .ready {}
  | asked :
      TaskStep p n listener s i j t a c tasks .ready (.asking (s.timeLimit p))
        { events := [.asked i j c a.path (s.timeLimit p)] }
  | replied {timeout : Binary64} {reply : Device.Reply}
      (hr : n.fetch i j c a.path timeout = reply) :
      TaskStep p n listener s i j t a c tasks (.asking timeout) (.answered reply.outcome)
        { events := .replied i j :: if reply.interrupts then [.interrupted] else []
          stops := reply.cancels || reply.interrupts
          seconds := some reply.seconds }
  | judged {outcome : Except Fault Device.Answer} {r : Result} (hj : judge t a outcome = .ok r) :
      TaskStep p n listener s i j t a c tasks (.answered outcome) (.judged r)
        { cuts := isFetchFailure outcome && s.isStopped p }
  | brokenOff {outcome : Except Fault Device.Answer} {b : Breakdown}
      (hj : judge t a outcome = .error b) :
      TaskStep p n listener s i j t a c tasks (.answered outcome) (.done (some (.breakdown b)))
        { cuts := isFetchFailure outcome && s.isStopped p }
  | recorded {r : Result} {reaction : Reaction}
      (hl : listener (s.recordedCount + 1) (stamp t r) = reaction) :
      TaskStep p n listener s i j t a c tasks (.judged r) (.done reaction.fault)
        { events := [.recorded i j (stamp t r), .told (s.recordedCount + 1) (stamp t r)]
          stops := reaction.cancels }

/-- The steps of the visit to the target at place `i`. -/
inductive VisitStep (p : Plan) (n : Network) (listener : Listener) (s : State) (i : Nat) :
    Visit → Visit → Effect → Prop
  | leftOut (hfree : s.visits.countP Visit.isActive < p.workers) (hs : s.isStopped p = true) :
      VisitStep p n listener s i .waiting .done { cuts := true }
  | admitted (hfree : s.visits.countP Visit.isActive < p.workers) (hs : s.isStopped p = false) :
      VisitStep p n listener s i .waiting .admitted {}
  | refused {t : Target} {c : Device.Connection} {e : Fault} (ht : p.targets[i]? = some t)
      (hc : c = connection p.settings (s.timeLimit p) t) (hn : n.connect i c = some e) :
      VisitStep p n listener s i .admitted .done
        { events := [.refused i c e, .failed i (refusal c e)] }
  | opened {t : Target} {c : Device.Connection} (ht : p.targets[i]? = some t)
      (hc : c = connection p.settings (s.timeLimit p) t) (hn : n.connect i c = none) :
      VisitStep p n listener s i .admitted (.visiting c (t.assertions.map fun _ => .waiting))
        { events := [.opened i c] }
  | closed {c : Device.Connection} {tasks : List Task} (hover : tasks.all Task.isOver = true)
      (hf : (n.close i c).or (tasks.findSome? Task.fault?) = none) :
      VisitStep p n listener s i (.visiting c tasks) .done { events := [.closed i c] }
  | failed {c : Device.Connection} {tasks : List Task} {e : Fault}
      (hover : tasks.all Task.isOver = true)
      (hf : (n.close i c).or (tasks.findSome? Task.fault?) = some e) :
      VisitStep p n listener s i (.visiting c tasks) .done
        { events := [.closed i c, .failed i e] }
  | task {j : Nat} {t : Target} {a : Assertion} {c : Device.Connection} {tasks : List Task}
      {task task' : Task} {e : Effect} (ht : p.targets[i]? = some t)
      (ha : t.assertions[j]? = some a) (hj : tasks[j]? = some task)
      (hstep : TaskStep p n listener s i j t a c tasks task task' e) :
      VisitStep p n listener s i (.visiting c tasks) (.visiting c (tasks.set j task')) e

/-- What a target or an assertion can make of a state in one step. -/
inductive Work (p : Plan) (n : Network) (listener : Listener) (s : State) : State → Prop
  | still : Work p n listener s s
  | visit {i : Nat} {v v' : Visit} {e : Effect} (hv : s.visits[i]? = some v)
      (hstep : VisitStep p n listener s i v v' e) : Work p n listener s (s.after i v' e)

/-- What can become of a state in one step. -/
inductive Change (p : Plan) (n : Network) (listener : Listener) (s : State) : State → Prop
  | work {s' : State} (h : Work p n listener s s') : Change p n listener s s'
  | cancel : Change p n listener s { s with stopping := true }
  | pass (seconds : Binary64) : Change p n listener s { s with clock := s.clock.add seconds }

variable {p : Plan} {n : Network} {listener : Listener} {s : State}

theorem work_stepTarget (i : Nat) : Work p n listener s (stepTarget p n i s) := by
  have hvisit : ∀ {v v' e}, s.visits[i]? = some v → VisitStep p n listener s i v v' e →
      Work p n listener s (s.after i v' e) := fun hv hstep => .visit hv hstep
  unfold stepTarget
  split
  · next hv =>
    unfold arrive
    split
    · next hfree =>
      split
      · next hs =>
        have h := hvisit hv (.leftOut hfree hs)
        simpa [State.after, State.setVisit, State.cut] using h
      · next hs =>
        have h := hvisit hv (.admitted hfree (by simpa using hs))
        simpa [State.after, State.setVisit] using h
    · exact .still
  · next t hv ht =>
    unfold enter
    dsimp only
    split
    · next e hn =>
      have h := hvisit hv (.refused ht rfl hn)
      simpa [State.after, State.setVisit, State.log] using h
    · next hn =>
      have h := hvisit hv (.opened ht rfl hn)
      simpa [State.after, State.setVisit, State.log] using h
  · next c tasks t hv =>
    unfold leave
    split
    · next hover =>
      split
      · next e hf =>
        have h := hvisit hv (.failed hover hf)
        simpa [State.after, State.setVisit, State.log] using h
      · next hf =>
        have h := hvisit hv (.closed hover hf)
        simpa [State.after, State.setVisit, State.log] using h
    · exact .still
  · exact .still

theorem stepTask_eq {i j : Nat} {t : Target} {a : Assertion} {c : Device.Connection}
    {tasks : List Task} {task task' : Task} {e : Effect}
    (h : TaskStep p n listener s i j t a c tasks task task' e) :
    stepTask p n listener i j t a c tasks s task =
      s.after i (.visiting c (tasks.set j task')) e := by
  cases h with
  | leftOut hfree hs => simp [stepTask, stepTask.set, State.after, State.setVisit, State.cut, *]
  | begun hfree hs => simp [stepTask, stepTask.set, State.after, State.setVisit, *]
  | asked => simp [stepTask, stepTask.set, State.after, State.setVisit, State.log]
  | replied hr =>
    subst hr
    simp only [stepTask, stepTask.set, State.after, State.setVisit, State.log]
    split <;> simp [*]
  | judged hj | brokenOff hj =>
    simp only [stepTask, stepTask.set, State.after, State.setVisit, State.cut, hj]
    split <;> simp [*]
  | recorded hl =>
    subst hl
    simp [stepTask, stepTask.set, State.after, State.setVisit, State.log, stamp]

theorem work_stepTask {i j : Nat} {t : Target} {a : Assertion} {c : Device.Connection}
    {tasks : List Task} {task : Task} (hv : s.visits[i]? = some (.visiting c tasks))
    (ht : p.targets[i]? = some t) (ha : t.assertions[j]? = some a) (hj : tasks[j]? = some task) :
    Work p n listener s (stepTask p n listener i j t a c tasks s task) := by
  have hwork : ∀ {task' e}, TaskStep p n listener s i j t a c tasks task task' e →
      Work p n listener s (stepTask p n listener i j t a c tasks s task) := fun hstep =>
    stepTask_eq hstep ▸ .visit hv (.task ht ha hj hstep)
  cases task with
  | waiting =>
    by_cases hfree : tasks.countP Task.isActive < p.parallel
    · cases hs : s.isStopped p with
      | true => exact hwork (.leftOut hfree hs)
      | false => exact hwork (.begun hfree hs)
    · rw [stepTask, if_neg hfree]
      exact .still
  | ready => exact hwork .asked
  | asking timeout => exact hwork (.replied rfl)
  | answered outcome =>
    cases hr : judge t a outcome with
    | ok r => exact hwork (.judged hr)
    | error b => exact hwork (.brokenOff hr)
  | judged r => exact hwork (.recorded rfl)
  | done e => exact .still

theorem work_stepAssertion (i j : Nat) :
    Work p n listener s (stepAssertion p n listener i j s) := by
  unfold stepAssertion
  split
  · next c tasks t hv ht =>
    split
    · next task a hj ha => exact work_stepTask hv ht ha hj
    · exact .still
  · exact .still

/-- Every step makes one of the changes, under its guards. -/
theorem change_step (m : Move) : Change p n listener s (step p n listener s m) := by
  cases m with
  | target i => exact .work (work_stepTarget i)
  | assertion i j => exact .work (work_stepAssertion i j)
  | cancel => exact .cancel
  | pass seconds => exact .pass seconds

/-- What every change preserves holds at the end of every schedule. -/
theorem follow_induction {P : State → Prop} (hstep : ∀ s s', P s → Change p n listener s s' → P s')
    (schedule : List Move) (hs : P s) : P (follow p n listener schedule s) := by
  induction schedule generalizing s with
  | nil => exact hs
  | cons m schedule ih => exact ih (hstep s _ hs (change_step m))

end StateCheck.Run
