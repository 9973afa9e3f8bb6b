import StateCheck.Assertion.Evaluation
import StateCheck.Run.Basic

/-!
The steps of a run. Every target is visited and every one of its assertions evaluated in a few
steps each, and the steps of different targets and assertions follow each other in any order that
the limits of the plan allow. What happens is kept as a list of events.
-/

namespace StateCheck.Run

/-- How far the evaluation of an assertion is. -/
inductive Task
  | waiting
  /-- The run was not stopping when the task began. -/
  | ready
  /-- The request is on its way, with its time limit. -/
  | asking (timeout : Binary64)
  | answered (outcome : Except Fault Device.Answer)
  | judged (r : Result)
  /-- The task is over, perhaps with a fault that nothing took care of. -/
  | done (fault : Option Fault)

/-- How far the visit to a target is. -/
inductive Visit
  | waiting
  /-- The run was not stopping when the visit began. -/
  | admitted
  | visiting (c : Device.Connection) (tasks : List Task)
  | done

inductive Event
  | opened (target : Nat) (c : Device.Connection)
  | refused (target : Nat) (c : Device.Connection) (e : Fault)
  | asked (target assertion : Nat) (c : Device.Connection) (path : String) (timeout : Binary64)
  | replied (target assertion : Nat)
  | interrupted
  | recorded (target assertion : Nat) (r : Result)
  /-- The listener was told a result, with the number of results so far. -/
  | told (count : Nat) (r : Result)
  | closed (target : Nat) (c : Device.Connection)
  /-- The visit ended with a fault. -/
  | failed (target : Nat) (e : Fault)

structure State where
  visits : List Visit
  clock : Binary64
  stopping : Bool
  /-- Whether stopping left out or broke off any work. -/
  cutShort : Bool
  events : List Event

namespace Task

def isOver : Task → Bool
  | done _ => true
  | _ => false

def isActive : Task → Bool
  | waiting | done _ => false
  | _ => true

def fault? : Task → Option Fault
  | done e => e
  | _ => none

end Task

def Visit.isActive : Visit → Bool
  | waiting | done => false
  | _ => true

namespace State

/-- The state before the first step of a plan. -/
def start (p : Plan) : State :=
  ⟨p.targets.map fun _ => .waiting, .zero, false, false, []⟩

def log (e : Event) (s : State) : State := { s with events := s.events ++ [e] }

def setVisit (i : Nat) (v : Visit) (s : State) : State := { s with visits := s.visits.set i v }

def cut (s : State) : State := { s with cutShort := true }

/-- The seconds until the deadline of the plan. -/
def remaining (p : Plan) (s : State) : Option Binary64 := p.deadline.map fun d => d.sub s.clock

/-- Whether no new work is to be started. -/
def isStopped (p : Plan) (s : State) : Bool :=
  s.stopping || (s.remaining p).any fun r => r.le .zero

/-- The time limit of the plan, cut to what is left before the deadline. -/
def timeLimit (p : Plan) (s : State) : Binary64 :=
  match s.remaining p with
  | none => p.timeout
  | some r => Binary64.zero.max (p.timeout.min r)

def recordedCount (s : State) : Nat :=
  s.events.countP fun e =>
    match e with
    | .recorded .. => true
    | _ => false

end State

/-! ### Steps -/

/-- The fault with which a visit ends whose session was refused. -/
def refusal (c : Device.Connection) (e : Fault) : Fault :=
  match e.asKind? .connect with
  | some _ => e
  | none => .failure ((Failure.of .connect ("connect: " ++ e.text) []).on c.address) (some e)

/-- The step of a target that is waiting: it begins its visit, or is left out. -/
def arrive (p : Plan) (i : Nat) (s : State) : State :=
  if s.visits.countP Visit.isActive < p.workers then
    if s.isStopped p then (s.setVisit i .done).cut else s.setVisit i .admitted
  else s

/-- Opens the session of a visit. -/
def enter (p : Plan) (n : Network) (i : Nat) (t : Target) (s : State) : State :=
  let c := connection p.settings (s.timeLimit p) t
  match n.connect i c with
  | some e => ((s.setVisit i .done).log (.refused i c e)).log (.failed i (refusal c e))
  | none => (s.setVisit i (.visiting c (t.assertions.map fun _ => .waiting))).log (.opened i c)

/-- Closes the session of a visit whose tasks are all over. A fault of the closing comes before
the first fault of the tasks. -/
def leave (n : Network) (i : Nat) (c : Device.Connection) (tasks : List Task) (s : State) :
    State :=
  if tasks.all Task.isOver then
    let s := (s.setVisit i .done).log (.closed i c)
    match (n.close i c).or (tasks.findSome? Task.fault?) with
    | some e => s.log (.failed i e)
    | none => s
  else s

def stepTarget (p : Plan) (n : Network) (i : Nat) (s : State) : State :=
  match s.visits[i]?, p.targets[i]? with
  | some .waiting, _ => arrive p i s
  | some .admitted, some t => enter p n i t s
  | some (.visiting c tasks), _ => leave n i c tasks s
  | _, _ => s

def fetchFailure (t : Target) (a : Assertion) (e : Fault) : Fault :=
  .ofFailure ((Failure.of .fetch e.text [("path", a.path)]).on t.host)

/-- The result of an assertion for the outcome of its request, if evaluating it does not break
down. -/
def judge (t : Target) (a : Assertion) : Except Fault Device.Answer → Except Breakdown Result
  | .ok answer => do a.evaluate (← Device.Value.textOf answer.value) answer.found
  | .error e =>
    .ok ⟨a, false, "", some (if (e.asKind? .fetch).isSome then e else fetchFailure t a e), ""⟩

/-- Whether the outcome is a failed request. -/
def isFetchFailure : Except Fault Device.Answer → Bool
  | .error e => (e.asKind? .fetch).isSome
  | .ok _ => false

/-- A step of one task, given the other tasks of its visit. -/
def stepTask (p : Plan) (n : Network) (listener : Listener) (i j : Nat) (t : Target)
    (a : Assertion) (c : Device.Connection) (tasks : List Task) (s : State) : Task → State
  | .waiting =>
    if tasks.countP Task.isActive < p.parallel then
      if s.isStopped p then (set (.done none) s).cut else set .ready s
    else s
  | .ready =>
    let timeout := s.timeLimit p
    (set (.asking timeout) s).log (.asked i j c a.path timeout)
  | .asking timeout =>
    let reply := n.fetch i j c a.path timeout
    let s := (set (.answered reply.outcome) s).log (.replied i j)
    let s := if reply.interrupts then s.log .interrupted else s
    { s with
      clock := s.clock.add reply.seconds
      stopping := s.stopping || reply.cancels || reply.interrupts }
  | .answered outcome =>
    let s := if isFetchFailure outcome && s.isStopped p then s.cut else s
    match judge t a outcome with
    | .ok r => set (.judged r) s
    | .error b => set (.done (some (.breakdown b))) s
  | .judged r =>
    let r := { r with target := t.host }
    let count := s.recordedCount + 1
    let reaction := listener count r
    let s := ((set (.done reaction.fault) s).log (.recorded i j r)).log (.told count r)
    { s with stopping := s.stopping || reaction.cancels }
  | .done _ => s
where
  set (task : Task) (s : State) : State := s.setVisit i (.visiting c (tasks.set j task))

def stepAssertion (p : Plan) (n : Network) (listener : Listener) (i j : Nat) (s : State) :
    State :=
  match s.visits[i]?, p.targets[i]? with
  | some (.visiting c tasks), some t =>
    match tasks[j]?, t.assertions[j]? with
    | some task, some a => stepTask p n listener i j t a c tasks s task
    | _, _ => s
  | _, _ => s

/-- What may happen next. A move that is not possible changes nothing. -/
inductive Move
  | target (i : Nat)
  | assertion (i j : Nat)
  /-- The run is cancelled from outside. -/
  | cancel
  /-- Time passes. -/
  | pass (seconds : Binary64)

def step (p : Plan) (n : Network) (listener : Listener) (s : State) : Move → State
  | .target i => stepTarget p n i s
  | .assertion i j => stepAssertion p n listener i j s
  | .cancel => { s with stopping := true }
  | .pass seconds => { s with clock := s.clock.add seconds }

/-- The state that a schedule leads to. -/
def follow (p : Plan) (n : Network) (listener : Listener) (schedule : List Move) (s : State) :
    State :=
  schedule.foldl (step p n listener) s

/-- Whether every visit is over. -/
def State.isOver (s : State) : Bool :=
  s.visits.all fun v =>
    match v with
    | .done => true
    | _ => false

end StateCheck.Run
