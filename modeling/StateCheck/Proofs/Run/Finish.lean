import StateCheck.Proofs.Run.Progress

/-!
The run that makes the first possible move each time: it follows a schedule of its plan to the
end.
-/

namespace StateCheck.Run

/-! ### One after another -/

section

variable {α : Type} {ended waits : α → Prop} {xs : List α} {x y : α} {k : Nat}

/-- Every member waits until those before it are over. -/
def InTurn (ended waits : α → Prop) (xs : List α) : Prop :=
  ∀ (i j : Nat) x y, i < j → xs[i]? = some x → xs[j]? = some y → ended x ∨ waits y

/-- The member at place `k` is the first one that is not over. -/
structure IsNext (ended : α → Prop) (xs : List α) (k : Nat) (x : α) : Prop where
  get : xs[k]? = some x
  isOpen : ¬ended x
  before : ∀ i y, i < k → xs[i]? = some y → ended y

theorem inTurn_of_waiting (h : ∀ x ∈ xs, waits x) : InTurn ended waits xs :=
  fun _ _ _ y _ _ hy => .inr (h y (List.mem_of_getElem? hy))

theorem IsNext.others (h : IsNext ended xs k x) (hxs : InTurn ended waits xs) (hy : y ∈ xs) :
    ended y ∨ y = x ∨ waits y := by
  obtain ⟨i, hi⟩ := List.mem_iff_getElem?.1 hy
  rcases Nat.lt_trichotomy i k with hlt | rfl | hgt
  · exact .inl (h.before i y hlt hi)
  · exact .inr (.inl (Option.some.inj (hi.symm.trans h.get)))
  · exact .inr (.inr ((hxs k i x y hgt h.get hi).resolve_left h.isOpen))

theorem InTurn.set (hxs : InTurn ended waits xs) (h : IsNext ended xs k x) (y : α) :
    InTurn ended waits (xs.set k y) := by
  intro i j z w hij hz hw
  have hne : k ≠ j → xs[j]? = some w := fun hkj => by rwa [List.getElem?_set_ne hkj] at hw
  rcases Nat.lt_trichotomy i k with hlt | rfl | hgt
  · rw [List.getElem?_set_ne (Nat.ne_of_gt hlt)] at hz
    exact .inl (h.before i z hlt hz)
  · exact .inr ((hxs i j x w hij h.get (hne (Nat.ne_of_lt hij))).resolve_left h.isOpen)
  · rw [List.getElem?_set_ne (Nat.ne_of_lt hgt)] at hz
    exact hxs i j z w hij hz (hne (Nat.ne_of_lt (Nat.lt_trans hgt hij)))

theorem isNext_zero (h : ¬ended x) : IsNext ended (x :: xs) 0 x :=
  ⟨rfl, h, fun i _ hi => absurd hi (Nat.not_lt_zero i)⟩

theorem IsNext.cons (h : IsNext ended xs k x) (hy : ended y) :
    IsNext ended (y :: xs) (k + 1) x where
  get := h.get
  isOpen := h.isOpen
  before i z hi hz := by
    cases i with
    | zero => exact Option.some.inj hz ▸ hy
    | succ i => exact h.before i z (Nat.lt_of_succ_lt_succ hi) hz

end

variable {p : Plan} {n : Network} {listener : Listener} {s : State} {i j : Nat} {v : Visit}
  {tasks : List Task}

/-- The tasks are taken in the order of their assertions. -/
def TasksInTurn (tasks : List Task) : Prop := InTurn (·.isOver = true) (· = .waiting) tasks

/-- The targets are visited in their order, and the tasks of each visit taken in theirs. -/
structure State.InTurn (s : State) : Prop where
  visits : Run.InTurn (· = .done) (· = .waiting) s.visits
  tasks : ∀ c tasks, .visiting c tasks ∈ s.visits → TasksInTurn tasks

/-! ### The first possible move -/

theorem firstOpen?_cases (tasks : List Task) :
    firstOpen? tasks = none ∧ tasks.all Task.isOver = true ∨
    ∃ j task, IsNext (·.isOver = true) tasks j task ∧ firstOpen? tasks = some j := by
  unfold firstOpen?
  induction tasks with
  | nil => exact .inl ⟨rfl, rfl⟩
  | cons task tasks ih =>
    by_cases hover : task.isOver = true
    · obtain ⟨hnone, hall⟩ | ⟨j, task', hnext, hj⟩ := ih
      · exact .inl (by simp [List.findIdx?_cons, hover, hnone, hall])
      · exact .inr ⟨j + 1, task', hnext.cons hover, by simp [List.findIdx?_cons, hover, hj]⟩
    · exact .inr ⟨0, task, isNext_zero hover, by simp [List.findIdx?_cons, hover]⟩

/-- The move of a visit that is made first. -/
def Visit.move (i : Nat) : Visit → Move
  | .visiting _ tasks =>
    match firstOpen? tasks with
    | some j => .assertion i j
    | none => .target i
  | _ => .target i

theorem firstMove?_cases (i : Nat) (vs : List Visit) :
    firstMove? i vs = none ∧ (∀ v ∈ vs, v = .done) ∨
    ∃ k v, IsNext (· = .done) vs k v ∧ firstMove? i vs = some (v.move (i + k)) := by
  induction vs generalizing i with
  | nil => exact .inl ⟨rfl, by simp⟩
  | cons v vs ih =>
    cases v with
    | done =>
      obtain ⟨hnone, hall⟩ | ⟨k, v, hnext, hk⟩ := ih (i + 1)
      · exact .inl ⟨hnone, by simpa using hall⟩
      · refine .inr ⟨k + 1, v, hnext.cons rfl, ?_⟩
        rwa [show i + (k + 1) = i + 1 + k by omega]
    | waiting => exact .inr ⟨0, .waiting, isNext_zero nofun, rfl⟩
    | admitted => exact .inr ⟨0, .admitted, isNext_zero nofun, rfl⟩
    | visiting c tasks =>
      refine .inr ⟨0, .visiting c tasks, isNext_zero nofun, ?_⟩
      simp only [firstMove?, Visit.move, Nat.add_zero]
      cases firstOpen? tasks <;> rfl

/-! ### The step of the first possible move -/

theorem exists_first_taskStep {t : Target} {a : Assertion} {c : Device.Connection} {task : Task}
    (hparallel : 0 < p.parallel) (htasks : TasksInTurn tasks)
    (hnext : IsNext (·.isOver = true) tasks j task) :
    ∃ task' e, TaskStep p n listener s i j t a c tasks task task' e := by
  by_cases hactive : task.isActive = true
  · exact exists_taskStep hactive
  have hwaiting : task = .waiting := by
    have hopen := hnext.isOpen
    cases task <;> simp_all [Task.isActive, Task.isOver]
  subst hwaiting
  have hnone : tasks.countP Task.isActive = 0 := by
    refine List.countP_eq_zero.2 fun task htask => ?_
    obtain hover | rfl | rfl := hnext.others htasks htask
    · cases task <;> simp_all [Task.isActive, Task.isOver]
    · simp [Task.isActive]
    · simp [Task.isActive]
  cases hs : s.isStopped p with
  | true => exact ⟨_, _, .leftOut (hnone ▸ hparallel) hs⟩
  | false => exact ⟨_, _, .begun (hnone ▸ hparallel) hs⟩

/-- The tasks with which a session is opened all wait. -/
theorem VisitStep.tasksInTurn {v' : Visit} {e : Effect} (h : VisitStep p n listener s i v v' e)
    (hover : ∀ c tasks, v = .visiting c tasks → tasks.all Task.isOver = true)
    (c : Device.Connection) (tasks : List Task) (hv' : v' = .visiting c tasks) :
    TasksInTurn tasks := by
  cases h with
  | opened ht hc hn =>
    cases hv'
    exact inTurn_of_waiting (by simp)
  | task ht ha hj hstep =>
    have hall := hover _ _ rfl
    rw [hstep.all_isOver hj] at hall
    cases hall
  | leftOut | admitted | refused | closed | failed => cases hv'

theorem exists_first_visitStep (hs : Sound p n listener s) (hturn : s.InTurn)
    (hworkers : 0 < p.workers) (hparallel : 0 < p.parallel)
    (hnext : IsNext (· = .done) s.visits i v) :
    ∃ v' e, VisitStep p n listener s i v v' e ∧
      step p n listener s (v.move i) = s.after i v' e ∧
      ∀ c tasks, v' = .visiting c tasks → TasksInTurn tasks := by
  have hv := hnext.get
  have htarget {v' : Visit} {e : Effect} (h : VisitStep p n listener s i v v' e)
      (hm : v.move i = .target i)
      (hover : ∀ c tasks, v = .visiting c tasks → tasks.all Task.isOver = true) :
      ∃ v' e, VisitStep p n listener s i v v' e ∧
        step p n listener s (v.move i) = s.after i v' e ∧
        ∀ c tasks, v' = .visiting c tasks → TasksInTurn tasks :=
    ⟨v', e, h, hm ▸ step_target hv h hover, h.tasksInTurn hover⟩
  cases v with
  | done => exact absurd rfl hnext.isOpen
  | waiting =>
    have hnone : s.visits.countP Visit.isActive = 0 := by
      refine List.countP_eq_zero.2 fun v hv => ?_
      obtain rfl | rfl | rfl := hnext.others hturn.visits hv <;> simp [Visit.isActive]
    cases hs : s.isStopped p with
    | true => exact htarget (.leftOut (hnone ▸ hworkers) hs) rfl nofun
    | false => exact htarget (.admitted (hnone ▸ hworkers) hs) rfl nofun
  | admitted =>
    obtain ⟨v', e, h⟩ := exists_visitStep hs hparallel hv rfl
    exact htarget h rfl nofun
  | visiting c tasks =>
    obtain ⟨hfirst, hover⟩ | ⟨j, task, hj, hfirst⟩ := firstOpen?_cases tasks
    · obtain ⟨v', e, h⟩ := exists_visitStep hs hparallel hv rfl
      refine htarget h (by simp [Visit.move, hfirst]) fun c tasks he => ?_
      cases he
      exact hover
    · have htasks := hturn.tasks c tasks (List.mem_of_getElem? hv)
      obtain ⟨t, a, ht, ha⟩ := hs.assertion hv hj.get
      obtain ⟨task', e, hstep⟩ := exists_first_taskStep hparallel htasks hj
      refine ⟨_, e, .task ht ha hj.get hstep, ?_, ?_⟩
      · rw [Visit.move, hfirst]
        exact step_assertion hv ht ha hj.get hstep
      · rintro c' tasks' he
        cases he
        exact htasks.set hj task'

theorem State.InTurn.after {v' : Visit} (h : s.InTurn) (hnext : IsNext (· = .done) s.visits i v)
    (hv' : ∀ c tasks, v' = .visiting c tasks → TasksInTurn tasks) (e : Effect) :
    (s.after i v' e).InTurn where
  visits := h.visits.set hnext v'
  tasks c tasks hm := by
    obtain hm | he := List.mem_or_eq_of_mem_set hm
    · exact h.tasks c tasks hm
    · exact hv' c tasks he.symm

/-! ### The whole run -/

theorem isOver_of_done (h : ∀ v ∈ s.visits, v = .done) : s.isOver = true :=
  List.all_eq_true.2 fun v hv => by rw [h v hv]

theorem exists_schedule (hworkers : 0 < p.workers) (hparallel : 0 < p.parallel) (count : Nat)
    (hs : Sound p n listener s) (hturn : s.InTurn) (hleft : s.left p ≤ count) :
    ∃ schedule, advance p n listener count s = follow p n listener schedule s ∧
      (follow p n listener schedule s).isOver = true := by
  -- Each first move takes at least one of the steps that are left.
  induction count generalizing s with
  | zero =>
    obtain ⟨-, hdone⟩ | ⟨i, v, hnext, -⟩ := firstMove?_cases 0 s.visits
    · exact ⟨[], rfl, isOver_of_done hdone⟩
    · obtain ⟨v', e, hstep, -, -⟩ := exists_first_visitStep hs hturn hworkers hparallel hnext
      have hlt := hstep.left_after_lt hs hnext.get
      omega
  | succ count ih =>
    obtain ⟨hnone, hdone⟩ | ⟨i, v, hnext, hmove⟩ := firstMove?_cases 0 s.visits
    · refine ⟨[], ?_, isOver_of_done hdone⟩
      simp only [advance, State.firstMove?, hnone]
      rfl
    · obtain ⟨v', e, hstep, hafter, htasks⟩ :=
        exists_first_visitStep hs hturn hworkers hparallel hnext
      have hlt := hstep.left_after_lt hs hnext.get
      obtain ⟨schedule, hadvance, hend⟩ :=
        ih (hs.after hnext.get hstep) (hturn.after hnext htasks e) (by omega)
      have hfollow : follow p n listener (v.move i :: schedule) s =
          follow p n listener schedule (s.after i v' e) := by
        rw [follow, List.foldl_cons, hafter, follow]
      refine ⟨v.move i :: schedule, ?_, hfollow ▸ hend⟩
      rw [Nat.zero_add] at hmove
      simp only [advance, State.firstMove?, hmove, hafter, hadvance, hfollow]

/-- A run that may be cancelled before it starts begins as a run that moves lead to. -/
theorem exists_prelude (p : Plan) (n : Network) (listener : Listener) (cancelled : Bool) :
    ∃ before, { State.start p with stopping := cancelled } =
      follow p n listener before (.start p) := by
  cases cancelled with
  | false => exact ⟨[], rfl⟩
  | true => exact ⟨[.cancel], rfl⟩

theorem inTurn_start (p : Plan) (cancelled : Bool) :
    State.InTurn { State.start p with stopping := cancelled } :=
  ⟨inTurn_of_waiting (by simp [State.start]), fun c tasks h => by simp [State.start] at h⟩

/-- A finished run has followed a schedule to its end. -/
theorem finish_eq_follow (p : Plan) (n : Network) (listener : Listener) (cancelled : Bool)
    (hworkers : 0 < p.workers) (hparallel : 0 < p.parallel) :
    ∃ schedule, finish p n listener cancelled = follow p n listener schedule (.start p) ∧
      (finish p n listener cancelled).isOver = true := by
  obtain ⟨before, hbefore⟩ := exists_prelude p n listener cancelled
  have hturn := inTurn_start p cancelled
  obtain ⟨schedule, hfinish, hover⟩ := exists_schedule hworkers hparallel p.moves
    (hbefore ▸ sound_follow p n listener before) hturn (Nat.le_of_eq (left_start p))
  have hfollow : finish p n listener cancelled =
      follow p n listener (before ++ schedule) (.start p) := by
    rw [finish, hfinish, hbefore]
    exact List.foldl_append.symm
  refine ⟨before ++ schedule, hfollow, ?_⟩
  rw [finish, hfinish]
  exact hover

end StateCheck.Run
