import StateCheck.Assertion.Basic
import StateCheck.Device.Network
import StateCheck.Number.Decimal
import StateCheck.Settings

/-!
Runs of assertion files: what a run is given and what it finds.
-/

namespace StateCheck.Run

/-- What a run is to do. At most `workers` targets are visited and at most `parallel` assertions
of each are evaluated at a time. -/
structure Plan where
  targets : List Target
  workers : Nat
  parallel : Nat
  /-- The seconds that a session may take to open and a request to be answered. -/
  timeout : Binary64
  /-- The reading of the clock from which on no work is started. -/
  deadline : Option Binary64
  settings : Option Settings

/-- A limit on concurrent work; at least one piece of work is done at a time. -/
def atLeastOne (n : Int) : Nat := max n.toNat 1

/-- The connection to a target, with what its credentials leave open taken from settings. -/
def connection (settings : Option Settings) (timeout : Binary64) (t : Target) :
    Device.Connection :=
  let c : Device.Connection :=
    ⟨t.host, t.credentials, timeout, Device.Connection.standardTransport⟩
  match settings with
  | some s => c.fill (s.credentials t.host)
  | none => c

/-- What the devices at the places of a plan answer; the same device may answer differently at
different places. -/
structure Network where
  connect : (target : Nat) → Device.Connection → Option Fault
  fetch : (target assertion : Nat) → Device.Connection → String → Binary64 → Device.Reply
  close : (target : Nat) → Device.Connection → Option Fault

def Network.ofDevices (n : Device.Network) : Network where
  connect _ c := n.connect c
  fetch _ _ c path timeout := n.fetch c path (some timeout)
  close _ c := n.close c

/-- How a listener takes a result: it may cancel the run, and it may fail. -/
structure Reaction where
  cancels : Bool
  fault : Option Fault

/-- A listener is told each result, with the number of results so far. -/
abbrev Listener := Nat → Result → Reaction

def Listener.silent : Listener := fun _ _ => ⟨false, none⟩

/-- What a run found. -/
structure Outcome where
  results : List Result
  /-- The seconds that the run took. -/
  duration : Binary64
  /-- Whether work was left out or broken off. -/
  cancelled : Bool

namespace Outcome

def count (o : Outcome) (v : Verdict) : Nat := o.results.countP fun r => r.verdict == v

def total (o : Outcome) : Nat := o.results.length

/-- Whether no result is a failure or an error. -/
def succeeded (o : Outcome) : Bool := o.count .fail == 0 && o.count .error == 0

def durationText (o : Outcome) : String := String.ofList (Decimal.fixed 3 o.duration) ++ "s"

/-- The outcome in one line. -/
def summary (o : Outcome) : String :=
  toString (o.count .pass) ++ "/" ++ toString o.total ++ " passed, " ++
    toString (o.count .fail) ++ " failed, " ++ toString (o.count .error) ++ " errors in " ++
    o.durationText

end Outcome

end StateCheck.Run
