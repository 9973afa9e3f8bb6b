import Mathlib.Algebra.GroupWithZero.Nat
import StateCheck.Proofs.Run.History

/-!
Progress of runs: a run that is not over can go on, and it is over after a bounded number of
steps that do something.
-/

namespace StateCheck.Run

def Move.isWork : Move → Bool
  | target _ | assertion .. => true
  | cancel | pass _ => false

variable {p : Plan} {n : Network} {listener : Listener} {s : State} {i j : Nat} {t : Target}
  {a : Assertion} {c : Device.Connection} {tasks : List Task}

/-! ### Possible steps -/

/-- Only a task that is not over takes a step. -/
theorem TaskStep.all_isOver {task task' : Task} {e : Effect} (hj : tasks[j]? = some task)
    (h : TaskStep p n listener s i j t a c tasks task task' e) :
    tasks.all Task.isOver = false := by
  refine List.all_eq_false.2 ⟨task, List.mem_of_getElem? hj, ?_⟩
  cases h <;> simp [Task.isOver]

theorem step_target {v v' : Visit} {e : Effect} (hv : s.visits[i]? = some v)
    (h : VisitStep p n listener s i v v' e)
    (hover : ∀ c tasks, v = .visiting c tasks → tasks.all Task.isOver = true) :
    step p n listener s (.target i) = s.after i v' e := by
  cases h with
  | leftOut hfree hs =>
    simp [step, stepTarget, arrive, State.after, State.setVisit, State.cut, *]
  | admitted hfree hs => simp [step, stepTarget, arrive, State.after, State.setVisit, *]
  | refused ht hc hn =>
    subst hc
    simp [step, stepTarget, enter, State.after, State.setVisit, State.log, *]
  | opened ht hc hn =>
    subst hc
    simp [step, stepTarget, enter, State.after, State.setVisit, State.log, *]
  | closed hdone hf | failed hdone hf =>
    simp only [step, stepTarget, hv, leave, hdone, if_true, hf]
    simp [State.after, State.setVisit, State.log]
  | task ht ha hj hstep =>
    have hall := hover _ _ rfl
    rw [hstep.all_isOver hj] at hall
    cases hall

theorem step_assertion {task task' : Task} {e : Effect}
    (hv : s.visits[i]? = some (.visiting c tasks)) (ht : p.targets[i]? = some t)
    (ha : t.assertions[j]? = some a) (hj : tasks[j]? = some task)
    (h : TaskStep p n listener s i j t a c tasks task task' e) :
    step p n listener s (.assertion i j) = s.after i (.visiting c (tasks.set j task')) e := by
  simp only [step, stepAssertion, hv, ht, hj, ha]
  exact stepTask_eq h

/-- Every possible step is made by a move. -/
theorem exists_move {v v' : Visit} {e : Effect} (hv : s.visits[i]? = some v)
    (h : VisitStep p n listener s i v v' e) :
    ∃ m, Move.isWork m = true ∧ step p n listener s m = s.after i v' e := by
  have htarget (hover : ∀ c tasks, v = .visiting c tasks → tasks.all Task.isOver = true) :
      ∃ m, Move.isWork m = true ∧ step p n listener s m = s.after i v' e :=
    ⟨.target i, rfl, step_target hv h hover⟩
  cases h with
  | leftOut | admitted | refused | opened => exact htarget nofun
  | closed hover hf | failed hover hf =>
    refine htarget fun c tasks he => ?_
    cases he
    exact hover
  | task ht ha hj hstep => exact ⟨.assertion i _, rfl, step_assertion hv ht ha hj hstep⟩

theorem exists_of_countP_pos {α : Type} {q : α → Bool} {xs : List α} (h : 0 < xs.countP q) :
    ∃ (k : Nat) (x : α), xs[k]? = some x ∧ q x = true := by
  obtain ⟨x, hx, hq⟩ := List.countP_pos_iff.1 h
  obtain ⟨k, hk⟩ := List.mem_iff_getElem?.1 hx
  exact ⟨k, x, hk, hq⟩

theorem exists_taskStep {task : Task} (h : task.isActive = true) :
    ∃ task' e, TaskStep p n listener s i j t a c tasks task task' e := by
  cases task with
  | waiting | done => cases h
  | ready => exact ⟨_, _, .asked⟩
  | asking timeout => exact ⟨_, _, .replied rfl⟩
  | answered outcome =>
    cases hj : judge t a outcome with
    | ok r => exact ⟨_, _, .judged hj⟩
    | error b => exact ⟨_, _, .brokenOff hj⟩
  | judged r => exact ⟨_, _, .recorded rfl⟩

/-- A visit whose tasks are not all over has a task that can take a step. -/
theorem exists_step_of_open (hparallel : 0 < p.parallel) (hopen : tasks.all Task.isOver = false) :
    ∃ j task, tasks[j]? = some task ∧
      ∀ t a, ∃ task' e, TaskStep p n listener s i j t a c tasks task task' e := by
  by_cases hactive : 0 < tasks.countP Task.isActive
  · obtain ⟨j, task, hj, htask⟩ := exists_of_countP_pos hactive
    exact ⟨j, task, hj, fun t a => exists_taskStep htask⟩
  -- No task is active, so there is room for one that waits.
  have hidle : ∀ task ∈ tasks, task.isActive ≠ true :=
    List.countP_eq_zero.1 (Nat.eq_zero_of_not_pos hactive)
  have hfree : tasks.countP Task.isActive < p.parallel := by omega
  obtain ⟨task, hm, htask⟩ := List.all_eq_false.1 hopen
  obtain ⟨j, hj⟩ := List.mem_iff_getElem?.1 hm
  have hwaiting : task = .waiting := by
    have hnot := hidle task hm
    cases task with
    | waiting => rfl
    | done fault => exact absurd rfl htask
    | ready | asking | answered | judged => exact absurd rfl hnot
  subst hwaiting
  refine ⟨j, _, hj, fun t a => ?_⟩
  cases hs : s.isStopped p with
  | true => exact ⟨_, _, .leftOut hfree hs⟩
  | false => exact ⟨_, _, .begun hfree hs⟩

/-- Every task of a visit is for an assertion of its target. -/
theorem Sound.assertion {task : Task} (hs : Sound p n listener s)
    (hv : s.visits[i]? = some (.visiting c tasks)) (hj : tasks[j]? = some task) :
    ∃ t a, p.targets[i]? = some t ∧ t.assertions[j]? = some a := by
  obtain ⟨t, ht, hvisited⟩ := hs.target hv
  cases hvisited with
  | visiting hsession =>
    have hlt : j < t.assertions.length :=
      hsession.length ▸ (List.getElem?_eq_some_iff.1 hj).1
    exact ⟨t, _, ht, List.getElem?_eq_getElem hlt⟩

theorem exists_visitStep {v : Visit} (hs : Sound p n listener s) (hparallel : 0 < p.parallel)
    (hv : s.visits[i]? = some v) (h : v.isActive = true) :
    ∃ v' e, VisitStep p n listener s i v v' e := by
  obtain ⟨t, ht, -⟩ := hs.target hv
  cases v with
  | waiting | done => cases h
  | admitted =>
    cases hn : n.connect i (connection p.settings (s.timeLimit p) t) with
    | some e => exact ⟨_, _, .refused ht rfl hn⟩
    | none => exact ⟨_, _, .opened ht rfl hn⟩
  | visiting c tasks =>
    cases hover : tasks.all Task.isOver with
    | true =>
      cases hf : (n.close i c).or (tasks.findSome? Task.fault?) with
      | some e => exact ⟨_, _, .failed hover hf⟩
      | none => exact ⟨_, _, .closed hover hf⟩
    | false =>
      obtain ⟨j, task, hj, hstep⟩ := exists_step_of_open hparallel hover
      obtain ⟨t, a, ht, ha⟩ := hs.assertion hv hj
      obtain ⟨task', e, htask⟩ := hstep t a
      exact ⟨_, e, .task ht ha hj htask⟩

/-- No run is stuck before it is over. -/
theorem exists_step (hs : Sound p n listener s) (hworkers : 0 < p.workers)
    (hparallel : 0 < p.parallel) (hopen : s.isOver = false) :
    ∃ i v v' e, s.visits[i]? = some v ∧ VisitStep p n listener s i v v' e := by
  by_cases hactive : 0 < s.visits.countP Visit.isActive
  · obtain ⟨i, v, hv, hvisit⟩ := exists_of_countP_pos hactive
    obtain ⟨v', e, hstep⟩ := exists_visitStep hs hparallel hv hvisit
    exact ⟨i, v, v', e, hv, hstep⟩
  -- No visit is active, so there is room for one that waits.
  have hidle : ∀ v ∈ s.visits, v.isActive ≠ true :=
    List.countP_eq_zero.1 (Nat.eq_zero_of_not_pos hactive)
  have hfree : s.visits.countP Visit.isActive < p.workers := by omega
  obtain ⟨v, hm, hvisit⟩ := List.all_eq_false.1 hopen
  obtain ⟨i, hi⟩ := List.mem_iff_getElem?.1 hm
  have hwaiting : v = .waiting := by
    have hnot := hidle v hm
    cases v with
    | waiting => rfl
    | done => exact absurd rfl hvisit
    | admitted | visiting => exact absurd rfl hnot
  subst hwaiting
  cases hs : s.isStopped p with
  | true => exact ⟨i, _, _, _, hi, .leftOut hfree hs⟩
  | false => exact ⟨i, _, _, _, hi, .admitted hfree hs⟩

/-! ### Steps that are left -/

def Task.left : Task → Nat
  | waiting => 5
  | ready => 4
  | asking _ => 3
  | answered _ => 2
  | judged _ => 1
  | done _ => 0

def Visit.left (t : Target) : Visit → Nat
  | waiting => 3 + 5 * t.assertions.length
  | admitted => 2 + 5 * t.assertions.length
  | visiting _ tasks => 1 + (tasks.map Task.left).sum
  | done => 0

/-- The steps that are left of a run. -/
def State.left (p : Plan) (s : State) : Nat :=
  (List.zipWith Visit.left p.targets s.visits).sum

theorem TaskStep.left_lt {task task' : Task} {e : Effect}
    (h : TaskStep p n listener s i j t a c tasks task task' e) : task'.left < task.left := by
  cases h with
  | leftOut | begun | asked | replied | judged | brokenOff | recorded =>
    simp only [Task.left]
    omega

theorem sum_set_lt {xs : List Nat} {k x y : Nat} (hx : xs[k]? = some x) (h : y < x) :
    (xs.set k y).sum < xs.sum := by
  induction xs generalizing k with
  | nil => cases hx
  | cons z xs ih =>
    cases k with
    | zero =>
      obtain rfl : z = x := Option.some.inj hx
      simpa using h
    | succ k => simpa using ih hx

theorem zipWith_set {α β γ : Type} {f : α → β → γ} {xs : List α} {ys : List β} {k : Nat} {x : α}
    (hx : xs[k]? = some x) (y : β) :
    List.zipWith f xs (ys.set k y) = (List.zipWith f xs ys).set k (f x y) := by
  induction xs generalizing ys k with
  | nil => cases hx
  | cons z xs ih =>
    cases ys with
    | nil => rfl
    | cons w ys =>
      cases k with
      | zero =>
        obtain rfl : z = x := Option.some.inj hx
        rfl
      | succ k => simpa using ih hx

theorem VisitStep.left_lt {v v' : Visit} {e : Effect} (h : VisitStep p n listener s i v v' e)
    (ht : p.targets[i]? = some t) : v'.left t < v.left t := by
  cases h with
  | leftOut | refused | closed | failed =>
    simp only [Visit.left]
    omega
  | admitted =>
    simp only [Visit.left]
    omega
  | opened ht' hc hn =>
    obtain rfl := Option.some.inj (ht.symm.trans ht')
    have hsum : ((t.assertions.map fun _ => Task.waiting).map Task.left).sum =
        5 * t.assertions.length := by
      simp [Task.left, Nat.mul_comm]
    simp only [Visit.left, hsum]
    omega
  | task ht' ha hj hstep =>
    have hlt := sum_set_lt (by rw [List.getElem?_map, hj]; rfl) hstep.left_lt
    rw [← List.map_set] at hlt
    simp only [Visit.left]
    omega

theorem VisitStep.left_after_lt {v v' : Visit} {e : Effect} (hs : Sound p n listener s)
    (hv : s.visits[i]? = some v) (h : VisitStep p n listener s i v v' e) :
    (s.after i v' e).left p < s.left p := by
  obtain ⟨t, ht, -⟩ := hs.target hv
  rw [State.left, State.left, State.after, zipWith_set ht]
  exact sum_set_lt (by simp [List.getElem?_zipWith, ht, hv]) (h.left_lt ht)

theorem left_start (p : Plan) : (State.start p).left p = p.moves := by
  unfold State.left State.start Plan.moves
  induction p.targets with
  | nil => rfl
  | cons t ts ih => simp_all [Visit.left]

theorem left_follow_le (p : Plan) (n : Network) (listener : Listener) (schedule : List Move) :
    (follow p n listener schedule (.start p)).left p ≤ p.moves := by
  have hstep : ∀ s s', Sound p n listener s ∧ s.left p ≤ p.moves → Change p n listener s s' →
      Sound p n listener s' ∧ s'.left p ≤ p.moves := by
    rintro s s' ⟨hs, hleft⟩ h
    refine ⟨hs.change h, ?_⟩
    cases h with
    | work h =>
      cases h with
      | still => exact hleft
      | visit hv hvisit => exact Nat.le_trans (Nat.le_of_lt (hvisit.left_after_lt hs hv)) hleft
    | cancel | pass => exact hleft
  exact (follow_induction hstep schedule ⟨sound_start p n listener, Nat.le_of_eq (left_start p)⟩).2

/-- From every state of a run, work alone leads to its end, in at most as many moves as are
left. -/
theorem exists_isOver (hs : Sound p n listener s) (hworkers : 0 < p.workers)
    (hparallel : 0 < p.parallel) :
    ∃ rest, rest.all Move.isWork = true ∧ rest.length ≤ s.left p ∧
      (follow p n listener rest s).isOver = true := by
  -- Each step of work takes at least one of the steps that are left.
  induction hleft : s.left p using Nat.strongRecOn generalizing s with
  | ind k ih =>
    cases hover : s.isOver with
    | true => exact ⟨[], rfl, Nat.zero_le _, hover⟩
    | false =>
      obtain ⟨i, v, v', e, hv, hstep⟩ := exists_step hs hworkers hparallel hover
      obtain ⟨m, hm, hstep'⟩ := exists_move hv hstep
      have hlt := hstep.left_after_lt hs hv
      obtain ⟨rest, hwork, hlen, hend⟩ := ih _ (hleft ▸ hlt) (hs.after hv hstep) rfl
      refine ⟨m :: rest, by simp [hm, hwork], ?_, ?_⟩
      · rw [List.length_cons]
        omega
      · rw [follow, List.foldl_cons, hstep']
        exact hend

end StateCheck.Run
