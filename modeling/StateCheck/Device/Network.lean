import StateCheck.Device.Client
import StateCheck.Device.Registry

/-!
Networks: how devices answer when sessions are opened, used and closed.
-/

namespace StateCheck.Device

/-- What comes of a request: its outcome, the seconds that it took, and whether meanwhile the
work was cancelled, by the program itself or from outside. -/
structure Reply where
  outcome : Except Fault Answer
  seconds : Binary64
  cancels : Bool
  interrupts : Bool

structure Network where
  connect : Connection → Option Fault
  fetch : Connection → String → Option Binary64 → Reply
  close : Connection → Option Fault

namespace Network

def failed? {α : Type} : Except Fault α → Option Fault
  | .ok _ => none
  | .error e => some e

/-- The network behind the clients of a session library. -/
def ofLibrary (lib : Library) : Network where
  connect c := failed? ((Client.new c).connect lib).outcome
  fetch c path timeout :=
    ⟨((Client.opened c).fetch lib path timeout none).outcome, .zero, false, false⟩
  close _ := none

/-- The network of the clients in a registry: a connection without a client fails. -/
def guarded (r : Registry) (n : Network) : Network :=
  { n with
    connect := fun c =>
      match r.choose c with
      | .ok _ => n.connect c
      | .error f => some (.ofFailure f) }

end Network

end StateCheck.Device
