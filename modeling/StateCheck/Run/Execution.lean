import StateCheck.Noted
import StateCheck.Run.Steps

/-!
The execution of a run: the schedule that makes the first possible move each time, and what
becomes of the final state.
-/

namespace StateCheck.Run

/-- The first task that is not over. -/
def firstOpen? (tasks : List Task) : Option Nat := tasks.findIdx? fun t => !t.isOver

/-- The first possible move of the visits that follow the first `i`. -/
def firstMove? : (i : Nat) → List Visit → Option Move
  | _, [] => none
  | i, .done :: vs => firstMove? (i + 1) vs
  | i, .visiting _ tasks :: _ =>
    match firstOpen? tasks with
    | some j => some (.assertion i j)
    | none => some (.target i)
  | i, _ :: _ => some (.target i)

def State.firstMove? (s : State) : Option Move := Run.firstMove? 0 s.visits

/-- The most moves that a plan takes: three for each target and five for each assertion. -/
def Plan.moves (p : Plan) : Nat :=
  p.targets.foldr (fun t moves => 3 + 5 * t.assertions.length + moves) 0

/-- The state after the first possible moves, at most `count` many. -/
def advance (p : Plan) (n : Network) (listener : Listener) : (count : Nat) → State → State
  | 0, s => s
  | count + 1, s =>
    match s.firstMove? with
    | none => s
    | some m => advance p n listener count (step p n listener s m)

/-- The final state of a run; it may be cancelled before it starts. -/
def finish (p : Plan) (n : Network) (listener : Listener) (cancelled : Bool) : State :=
  advance p n listener p.moves { State.start p with stopping := cancelled }

/-! ### Conclusions -/

structure Record where
  target : Nat
  assertion : Nat
  result : Result

def State.records (s : State) : List Record :=
  s.events.filterMap fun e =>
    match e with
    | .recorded i j r => some ⟨i, j, r⟩
    | _ => none

def State.failures (s : State) : List (Nat × Fault) :=
  s.events.filterMap fun e =>
    match e with
    | .failed i e => some (i, e)
    | _ => none

/-- The order of the assertion file. -/
def Record.le (a b : Record) : Bool :=
  a.target < b.target || (a.target == b.target && a.assertion ≤ b.assertion)

/-- The results in the order of the assertion file. -/
def State.results (s : State) : List Result := (s.records.mergeSort Record.le).map (·.result)

def State.outcome (s : State) : Outcome := ⟨s.results, s.clock, s.cutShort⟩

/-- The failure of the lowest target among failures. -/
def lowest? : List (Nat × Fault) → Option (Nat × Fault)
  | [] => none
  | f :: fs =>
    match lowest? fs with
    | some g => if g.1 < f.1 then some g else some f
    | none => some f

/-- What a final state means: the first fault that is no failure to connect, else the failure to
connect of the lowest target, else the outcome of the run. -/
def conclude (s : State) : Noted Outcome :=
  match s.failures.find? fun f => (f.2.asKind? .connect).isNone with
  | some (_, e) => .ofExcept (.error e)
  | none =>
    match lowest? s.failures with
    | some (_, e) => ⟨["Run aborted: " ++ e.text], .error e⟩
    | none =>
      let o := s.outcome
      ⟨if o.cancelled then ["Run cancelled with " ++ toString o.total ++ " results recorded"]
        else [], .ok o⟩

/-- Runs a plan. -/
def execute (p : Plan) (n : Network) (listener : Listener) (cancelled : Bool) : Noted Outcome :=
  conclude (finish p n listener cancelled)

end StateCheck.Run
