import StateCheck.Proofs.Run.Cancellation
import StateCheck.Proofs.Run.Finish

/-!
Runs that take all work in the order of the assertion file, one piece after another.
-/

namespace StateCheck.Run

/-- Work that begins is at the head of its queue, and nothing comes from outside. -/
def State.Queued (s : State) : Move → Prop
  | .target i => s.visits[i]? = some .waiting → .waiting ∉ s.visits.take i
  | .assertion i j => ∀ c tasks, s.visits[i]? = some (.visiting c tasks) →
      tasks[j]? = some .waiting → .waiting ∉ tasks.take j
  | .cancel | .pass _ => False

/-- A schedule that takes all its work from the heads of the queues. -/
def InQueue (p : Plan) (n : Network) (listener : Listener) : List Move → State → Prop
  | [], _ => True
  | m :: schedule, s => s.Queued m ∧ InQueue p n listener schedule (step p n listener s m)

section

variable {α : Type} {ended waits : α → Prop} {xs : List α} {x y : α} {k l : Nat}

/-! ### Turns -/

theorem IsNext.unique (h : IsNext ended xs k x) (h' : IsNext ended xs l y) : k = l ∧ x = y := by
  obtain hlt | rfl | hgt := Nat.lt_trichotomy k l
  · exact absurd (h'.before k x hlt h.get) h.isOpen
  · exact ⟨rfl, Option.some.inj (h.get.symm.trans h'.get)⟩
  · exact absurd (h.before l y hgt h'.get) h'.isOpen

/-- It is the turn of a member that is under way. -/
theorem InTurn.isNext_of_active (hxs : InTurn ended waits xs) (hx : xs[k]? = some x)
    (hopen : ¬ended x) (hactive : ¬waits x) : IsNext ended xs k x :=
  ⟨hx, hopen, fun i y hi hy => (hxs i k y x hi hy hx).resolve_right hactive⟩

/-- It is the turn of the first member that waits if none is under way. -/
theorem isNext_of_idle (hidle : ∀ y ∈ xs, ended y ∨ waits y) (hx : xs[k]? = some x)
    (hopen : ¬ended x) (hfirst : ∀ y ∈ xs.take k, ¬waits y) : IsNext ended xs k x where
  get := hx
  isOpen := hopen
  before i y hi hy := by
    have hm : y ∈ xs.take k := List.mem_of_getElem? (by rw [List.getElem?_take_of_lt hi, hy])
    exact (hidle y (List.mem_of_getElem? hy)).resolve_right (hfirst y hm)

theorem IsNext.not_mem_take (h : IsNext ended xs k x) (hy : ¬ended y) : y ∉ xs.take k := by
  intro hm
  obtain ⟨i, hi⟩ := List.mem_iff_getElem?.1 hm
  rw [List.getElem?_take] at hi
  split at hi
  · next hlt => exact hy (h.before i y hlt hi)
  · cases hi

theorem InTurn.mem_set (hxs : InTurn ended waits xs) (h : IsNext ended xs k x) {z : α}
    (hz : z ∈ xs.set k y) : z = y ∨ ended z ∨ waits z := by
  obtain ⟨i, hi⟩ := List.mem_iff_getElem?.1 hz
  obtain hlt | rfl | hgt := Nat.lt_trichotomy i k
  · rw [List.getElem?_set_ne (Nat.ne_of_gt hlt)] at hi
    exact .inr (.inl (h.before i z hlt hi))
  · rw [List.getElem?_set_self (List.getElem?_eq_some_iff.1 h.get).1] at hi
    exact .inl (Option.some.inj hi).symm
  · rw [List.getElem?_set_ne (Nat.ne_of_lt hgt)] at hi
    exact .inr (.inr ((hxs k i x z hgt h.get hi).resolve_left h.isOpen))

end

variable {p : Plan} {n : Network} {listener : Listener} {s s' : State} {i j : Nat} {m : Move}
  {v v' : Visit} {e : Effect} {schedule before after : List Move}

/-- It is the turn of a task of the visit whose turn it is. -/
structure State.At (s : State) (i j : Nat) (c : Device.Connection) (tasks : List Task)
    (task : Task) : Prop where
  visit : IsNext (· = .done) s.visits i (.visiting c tasks)
  task : IsNext (·.isOver = true) tasks j task

section

variable (p : Plan) (n : Network) (listener : Listener) (s : State)

/-- A step of the visit whose turn it is, and there of the task whose turn it is. -/
inductive Turn : Move → Nat → Visit → Effect → Prop
  | visit {i : Nat} {v v' : Visit} {e : Effect} (hi : IsNext (· = .done) s.visits i v)
      (hstep : VisitStep p n listener s i v v' e)
      (hover : ∀ c tasks, v = .visiting c tasks → tasks.all Task.isOver = true) :
      Turn (.target i) i v' e
  | task {i j : Nat} {t : Target} {a : Assertion} {c : Device.Connection} {tasks : List Task}
      {task task' : Task} {e : Effect} (hat : s.At i j c tasks task)
      (ht : p.targets[i]? = some t) (ha : t.assertions[j]? = some a)
      (hstep : TaskStep p n listener s i j t a c tasks task task' e) :
      Turn (.assertion i j) i (.visiting c (tasks.set j task')) e

end

theorem TaskStep.not_all_isOver {t : Target} {a : Assertion} {c : Device.Connection}
    {tasks : List Task} {task task' : Task} (h : TaskStep p n listener s i j t a c tasks task task' e)
    (hj : tasks[j]? = some task) : ¬tasks.all Task.isOver = true := by
  simp [h.all_isOver hj]

theorem Turn.visitStep (h : Turn p n listener s m i v' e) :
    ∃ v, IsNext (· = .done) s.visits i v ∧ VisitStep p n listener s i v v' e := by
  cases h with
  | visit hi hstep => exact ⟨_, hi, hstep⟩
  | task hat ht ha hstep => exact ⟨_, hat.visit, .task ht ha hat.task.get hstep⟩

theorem Turn.inTurn (h : Turn p n listener s m i v' e) (hs : s.InTurn) :
    (s.after i v' e).InTurn := by
  cases h with
  | visit hi hstep hover => exact hs.after hi (hstep.tasksInTurn hover) e
  | @task i j t a c tasks task task' e hat ht ha hstep =>
    refine hs.after hat.visit (fun c' tasks' he => ?_) e
    cases he
    exact (hs.tasks c tasks (List.mem_of_getElem? hat.visit.get)).set hat.task task'

/-! ### Moves -/

section

variable (p : Plan) (n : Network) (listener : Listener) (s : State)

/-- The step that the move of a target or of an assertion makes. -/
inductive MoveStep : Move → Nat → Visit → Effect → Prop
  | target {i : Nat} {v v' : Visit} {e : Effect} (hv : s.visits[i]? = some v)
      (hstep : VisitStep p n listener s i v v' e)
      (hover : ∀ c tasks, v = .visiting c tasks → tasks.all Task.isOver = true) :
      MoveStep (.target i) i v' e
  | assertion {i j : Nat} {t : Target} {a : Assertion} {c : Device.Connection} {tasks : List Task}
      {task task' : Task} {e : Effect} (hv : s.visits[i]? = some (.visiting c tasks))
      (ht : p.targets[i]? = some t) (ha : t.assertions[j]? = some a)
      (hj : tasks[j]? = some task)
      (hstep : TaskStep p n listener s i j t a c tasks task task' e) :
      MoveStep (.assertion i j) i (.visiting c (tasks.set j task')) e

end

/-- The move of a target makes a step or changes nothing. -/
theorem target_cases (p : Plan) (n : Network) (listener : Listener) (s : State) (i : Nat) :
    (∃ v' e, MoveStep p n listener s (.target i) i v' e) ∨
      step p n listener s (.target i) = s := by
  cases hv : s.visits[i]? with
  | none => exact .inr (by simp [step, stepTarget, hv])
  | some v =>
    cases v with
    | waiting =>
      by_cases hfree : s.visits.countP Visit.isActive < p.workers
      · cases hs : s.isStopped p with
        | true => exact .inl ⟨_, _, .target hv (.leftOut hfree hs) (by rintro _ _ ⟨⟩)⟩
        | false => exact .inl ⟨_, _, .target hv (.admitted hfree hs) (by rintro _ _ ⟨⟩)⟩
      · exact .inr (by simp [step, stepTarget, hv, arrive, hfree])
    | admitted =>
      cases ht : p.targets[i]? with
      | none => exact .inr (by simp [step, stepTarget, hv, ht])
      | some t =>
        cases hn : n.connect i (connection p.settings (s.timeLimit p) t) with
        | some e => exact .inl ⟨_, _, .target hv (.refused ht rfl hn) (by rintro _ _ ⟨⟩)⟩
        | none => exact .inl ⟨_, _, .target hv (.opened ht rfl hn) (by rintro _ _ ⟨⟩)⟩
    | visiting c tasks =>
      cases hover : tasks.all Task.isOver with
      | true =>
        have hall : ∀ c' tasks', Visit.visiting c tasks = .visiting c' tasks' →
            tasks'.all Task.isOver = true := by
          rintro c' tasks' he
          cases he
          exact hover
        cases hf : (n.close i c).or (tasks.findSome? Task.fault?) with
        | some e => exact .inl ⟨_, _, .target hv (.failed hover hf) hall⟩
        | none => exact .inl ⟨_, _, .target hv (.closed hover hf) hall⟩
      | false => exact .inr (by simp [step, stepTarget, hv, leave, hover])
    | done => exact .inr (by simp [step, stepTarget, hv])

/-- The move of an assertion makes a step or changes nothing. -/
theorem assertion_cases (p : Plan) (n : Network) (listener : Listener) (s : State) (i j : Nat) :
    (∃ v' e, MoveStep p n listener s (.assertion i j) i v' e) ∨
      step p n listener s (.assertion i j) = s := by
  simp only [step, stepAssertion]
  split
  · next c tasks t hv ht =>
    split
    · next task a hj ha =>
      by_cases hactive : task.isActive = true
      · obtain ⟨task', e, hstep⟩ := exists_taskStep hactive
        exact .inl ⟨_, e, .assertion hv ht ha hj hstep⟩
      · cases task with
        | waiting =>
          by_cases hfree : tasks.countP Task.isActive < p.parallel
          · cases hs : s.isStopped p with
            | true => exact .inl ⟨_, _, .assertion hv ht ha hj (.leftOut hfree hs)⟩
            | false => exact .inl ⟨_, _, .assertion hv ht ha hj (.begun hfree hs)⟩
          · exact .inr (by simp [stepTask, hfree])
        | done fault => exact .inr rfl
        | ready | asking | answered | judged => exact absurd rfl hactive
    · exact .inr rfl
  · exact .inr rfl

theorem Visit.idle {v : Visit} (h : ¬v.isActive = true) : v = .done ∨ v = .waiting := by
  cases v with
  | waiting => exact .inr rfl
  | done => exact .inl rfl
  | admitted | visiting => exact absurd rfl h

theorem Task.idle {task : Task} (h : ¬task.isActive = true) :
    task.isOver = true ∨ task = .waiting := by
  cases task with
  | waiting => exact .inr rfl
  | done => exact .inl rfl
  | ready | asking | answered | judged => exact absurd rfl h

/-- With one visit at a time, a step that is made in the order of the queue is made in turn. -/
theorem VisitStep.isNext (h : VisitStep p n listener s i v v' e) (hs : s.InTurn)
    (hworkers : p.workers = 1) (hv : s.visits[i]? = some v)
    (hq : v = .waiting → .waiting ∉ s.visits.take i) : IsNext (· = .done) s.visits i v := by
  by_cases hwaiting : v = .waiting
  · have hidle : s.visits.countP Visit.isActive = 0 := by
      subst hwaiting
      cases h with
      | leftOut hfree | admitted hfree => omega
    have hothers : ∀ y ∈ s.visits, y = .done ∨ y = .waiting := fun y hy =>
      Visit.idle (List.countP_eq_zero.1 hidle y hy)
    refine isNext_of_idle hothers hv (by simp [hwaiting]) ?_
    rintro y hy rfl
    exact hq hwaiting hy
  · refine hs.visits.isNext_of_active hv ?_ hwaiting
    rintro rfl
    cases h

theorem TaskStep.isNext {t : Target} {a : Assertion} {c : Device.Connection} {tasks : List Task}
    {task task' : Task} (h : TaskStep p n listener s i j t a c tasks task task' e)
    (htasks : TasksInTurn tasks) (hparallel : p.parallel = 1) (hj : tasks[j]? = some task)
    (hq : task = .waiting → .waiting ∉ tasks.take j) :
    IsNext (·.isOver = true) tasks j task := by
  by_cases hwaiting : task = .waiting
  · have hidle : tasks.countP Task.isActive = 0 := by
      subst hwaiting
      cases h with
      | leftOut hfree | begun hfree => omega
    have hothers : ∀ y ∈ tasks, y.isOver = true ∨ y = .waiting := fun y hy =>
      Task.idle (List.countP_eq_zero.1 hidle y hy)
    refine isNext_of_idle hothers hj (by simp [hwaiting, Task.isOver]) ?_
    rintro y hy rfl
    exact hq hwaiting hy
  · refine htasks.isNext_of_active hj ?_ hwaiting
    cases h <;> simp [Task.isOver]

/-- The steps of a run that does one piece of work at a time are made in turn. -/
theorem MoveStep.turn (h : MoveStep p n listener s m i v' e) (hs : s.InTurn)
    (hworkers : p.workers = 1) (hparallel : p.parallel = 1) (hq : s.Queued m) :
    Turn p n listener s m i v' e := by
  cases h with
  | target hv hstep hover =>
    refine .visit (hstep.isNext hs hworkers hv ?_) hstep hover
    rintro rfl
    exact hq hv
  | assertion hv ht ha hj hstep =>
    have hi := hs.visits.isNext_of_active hv (by simp) (by simp)
    have htasks := hs.tasks _ _ (List.mem_of_getElem? hv)
    refine .task ⟨hi, hstep.isNext htasks hparallel hj ?_⟩ ht ha hstep
    rintro rfl
    exact hq _ _ hv hj

/-! ### The only order -/

theorem move_of_open {c : Device.Connection} {tasks : List Task} {task : Task}
    (h : IsNext (·.isOver = true) tasks j task) :
    (Visit.visiting c tasks).move i = .assertion i j := by
  obtain ⟨-, hall⟩ | ⟨k, task', hk, hfirst⟩ := firstOpen?_cases tasks
  · exact absurd (List.all_eq_true.1 hall task (List.mem_of_getElem? h.get)) h.isOpen
  · rw [Visit.move, hfirst, (h.unique hk).1]

theorem move_of_isOver (hover : ∀ c tasks, v = .visiting c tasks → tasks.all Task.isOver = true) :
    v.move i = .target i := by
  cases v with
  | visiting c tasks =>
    obtain ⟨hnone, -⟩ | ⟨k, task, hk, -⟩ := firstOpen?_cases tasks
    · rw [Visit.move, hnone]
    · exact absurd (List.all_eq_true.1 (hover c tasks rfl) task (List.mem_of_getElem? hk.get))
        hk.isOpen
  | waiting | admitted | done => rfl

theorem firstMove?_of_isNext (h : IsNext (· = .done) s.visits i v) :
    s.firstMove? = some (v.move i) := by
  obtain ⟨-, hdone⟩ | ⟨k, w, hk, hfirst⟩ := firstMove?_cases 0 s.visits
  · exact absurd (hdone v (List.mem_of_getElem? h.get)) h.isOpen
  · obtain ⟨rfl, rfl⟩ := h.unique hk
    rw [State.firstMove?, hfirst, Nat.zero_add]

/-- A step in turn is the first one that is possible. -/
theorem Turn.firstMove? (h : Turn p n listener s m i v' e) : s.firstMove? = some m := by
  cases h with
  | visit hi hstep hover => rw [firstMove?_of_isNext hi, move_of_isOver hover]
  | task hat ht ha hstep => rw [firstMove?_of_isNext hat.visit, move_of_open hat.task]

theorem Turn.step_eq (h : Turn p n listener s m i v' e) :
    step p n listener s m = s.after i v' e := by
  cases h with
  | visit hi hstep hover => exact step_target hi.get hstep hover
  | task hat ht ha hstep => exact step_assertion hat.visit.get ht ha hat.task.get hstep

/-- With one piece of work at a time, taken from the heads of the queues, every move that changes
anything makes a step in turn. -/
theorem still_or_turn (hs : s.InTurn) (hworkers : p.workers = 1) (hparallel : p.parallel = 1)
    (hq : s.Queued m) :
    step p n listener s m = s ∨ ∃ i v' e, Turn p n listener s m i v' e := by
  cases m with
  | target i =>
    obtain ⟨v', e, h⟩ | h := target_cases p n listener s i
    · exact .inr ⟨i, v', e, h.turn hs hworkers hparallel hq⟩
    · exact .inl h
  | assertion i j =>
    obtain ⟨v', e, h⟩ | h := assertion_cases p n listener s i j
    · exact .inr ⟨i, v', e, h.turn hs hworkers hparallel hq⟩
    · exact .inl h
  | cancel | pass => exact hq.elim

/-! ### Schedules -/

theorem inQueue_append : InQueue p n listener (before ++ after) s ↔
    InQueue p n listener before s ∧ InQueue p n listener after (follow p n listener before s) := by
  induction before generalizing s with
  | nil => simp [InQueue, follow]
  | cons m before ih =>
    rw [List.cons_append, InQueue, InQueue, ih, and_assoc]
    rfl

/-- What the steps in turn preserve holds at the end of a schedule in the order of the queues. -/
theorem InQueue.induction {P : State → Prop} (hq : InQueue p n listener schedule s)
    (hworkers : p.workers = 1) (hparallel : p.parallel = 1) (hturn : ∀ s, P s → s.InTurn)
    (hstep : ∀ s m i v' e, P s → Turn p n listener s m i v' e → P (s.after i v' e)) (hs : P s) :
    P (follow p n listener schedule s) := by
  induction schedule generalizing s with
  | nil => exact hs
  | cons m schedule ih =>
    obtain ⟨hm, hrest⟩ := hq
    refine ih hrest ?_
    obtain hstill | ⟨i, v', e, h⟩ := still_or_turn (hturn s hs) hworkers hparallel hm
    · rwa [hstill]
    · rw [h.step_eq]
      exact hstep s m i v' e hs h

theorem firstMove?_of_isOver (h : s.isOver = true) : s.firstMove? = none := by
  obtain ⟨hnone, -⟩ | ⟨k, v, hk, -⟩ := firstMove?_cases 0 s.visits
  · exact hnone
  · have hdone := List.all_eq_true.1 h v (List.mem_of_getElem? hk.get)
    have hopen := hk.isOpen
    cases v <;> simp_all

/-- All schedules in the order of the queues that come to an end come to the same one. -/
theorem InQueue.follow_eq (hq : InQueue p n listener schedule s) (hworkers : p.workers = 1)
    (hparallel : p.parallel = 1) (hs : Sound p n listener s) (hturn : s.InTurn) {count : Nat}
    (hleft : s.left p ≤ count) (hover : (follow p n listener schedule s).isOver = true) :
    follow p n listener schedule s = advance p n listener count s := by
  induction schedule generalizing s count with
  | nil =>
    cases count with
    | zero => rfl
    | succ count =>
      have hnone := firstMove?_of_isOver hover
      rw [advance, show s.firstMove? = none from hnone]
      rfl
  | cons m schedule ih =>
    obtain ⟨hm, hrest⟩ := hq
    have hfollow : follow p n listener (m :: schedule) s =
        follow p n listener schedule (step p n listener s m) := rfl
    rw [hfollow] at hover ⊢
    obtain hstill | ⟨i, v', e, h⟩ := still_or_turn hturn hworkers hparallel hm
    · rw [hstill] at hrest hover ⊢
      exact ih hrest hs hturn hleft hover
    · obtain ⟨v, hi, hstep⟩ := h.visitStep
      have hlt := hstep.left_after_lt hs hi.get
      rw [h.step_eq] at hrest hover ⊢
      obtain ⟨count, rfl⟩ := Nat.exists_eq_succ_of_ne_zero (show count ≠ 0 by omega)
      have hadvance : follow p n listener schedule (s.after i v' e) =
          advance p n listener count (s.after i v' e) :=
        ih hrest (hs.after hi.get hstep) (h.inTurn hturn) (by omega) hover
      rw [hadvance, advance, h.firstMove?]
      exact congrArg (advance p n listener count) h.step_eq.symm

theorem queued_move (h : IsNext (· = .done) s.visits i v) : s.Queued (v.move i) := by
  have hvisits : .waiting ∉ s.visits.take i := h.not_mem_take (by simp)
  cases v with
  | visiting c tasks =>
    obtain ⟨hnone, -⟩ | ⟨j, task, hj, hfirst⟩ := firstOpen?_cases tasks
    · simp only [Visit.move, hnone]
      exact fun _ => hvisits
    · simp only [Visit.move, hfirst]
      intro c' tasks' hv _
      obtain ⟨rfl, rfl⟩ : c = c' ∧ tasks = tasks' := by simpa [h.get] using hv
      exact hj.not_mem_take (by simp [Task.isOver])
  | waiting | admitted | done => exact fun _ => hvisits

/-- A schedule in the order of the queues comes to the end. -/
theorem exists_inQueue (hs : Sound p n listener s) (hturn : s.InTurn) (hworkers : 0 < p.workers)
    (hparallel : 0 < p.parallel) : ∃ schedule, InQueue p n listener schedule s ∧
      (follow p n listener schedule s).isOver = true := by
  -- Each first move takes at least one of the steps that are left.
  induction hleft : s.left p using Nat.strongRecOn generalizing s with
  | ind k ih =>
    obtain ⟨-, hdone⟩ | ⟨i, v, hnext, -⟩ := firstMove?_cases 0 s.visits
    · exact ⟨[], trivial, isOver_of_done hdone⟩
    · obtain ⟨v', e, hstep, hafter, htasks⟩ :=
        exists_first_visitStep hs hturn hworkers hparallel hnext
      obtain ⟨rest, hrest, hover⟩ := ih _ (hleft ▸ hstep.left_after_lt hs hnext.get)
        (hs.after hnext.get hstep) (hturn.after hnext htasks e) rfl
      refine ⟨v.move i :: rest, ⟨queued_move hnext, hafter ▸ hrest⟩, ?_⟩
      rw [follow, List.foldl_cons, hafter]
      exact hover

end StateCheck.Run
