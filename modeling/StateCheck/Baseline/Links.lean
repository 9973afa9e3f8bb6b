import StateCheck.Baseline.Survey

/-!
Assertions about the interfaces of a device and the systems behind them.
-/

namespace StateCheck.Baseline

namespace Interfaces

def area : Area where
  name := "interfaces"
  description := "Generate assertions for interface oper-status"
  absentStatuses := Area.standardStatuses
  absentMarks := Area.standardMarks

def path : String := "/interfaces"

/-- How the names of management and internal interfaces start. -/
def skipped : List String := ["Management", "Loopback", "Null", "Cpu", "Vxlan", "ma"]

def isDown : Option Json.Value → Bool
  | some (.string s) => s == "DOWN"
  | _ => false

/-- The assertion about an interface that is not switched off. -/
def interfaceAssertions (entry : Json.Value) : Except Breakdown (List Assertion) := do
  let state := stateOf entry
  let name ← textWithState entry state "name"
  if name = "" ∨ startsWithAny skipped name then return []
  else if isDown (← ask state "admin-status") then return []
  else
    let status ← askText state "oper-status"
    return [equality (name ++ " is " ++ status) ("interface[" ++ name ++ "]/state/oper-status")
      status]

def assertions (doc : Json.Value) : Except Breakdown (List Assertion) :=
  gather interfaceAssertions (entries doc "interface")

def generator : Generator where
  area := area
  survey := do
    match ← area.query path with
    | none => pure []
    | some doc => Survey.checked (assertions doc)

end Interfaces

namespace Lldp

def area : Area where
  name := "lldp"
  description := "Generate assertions for LLDP neighbor relationships"
  absentStatuses := Area.standardStatuses
  absentMarks := Area.standardMarks

def path : String := "/lldp/interfaces"

/-- How the names of management and internal interfaces start. -/
def skipped : List String := ["Management", "mgmt", "ma", "fxp", "em", "vme"]

/-- The name of the first system that is named among neighbors. -/
def firstSystem : List Json.Value → Except Breakdown String
  | [] => .ok ""
  | entry :: rest => do
    let remote := setText (← ask (stateOf entry) "system-name")
    if remote = "" then firstSystem rest else return remote

def neighborAssertion (name remote : String) : Assertion :=
  ⟨"lldp/interfaces/interface[name=" ++ name ++ "]/neighbors/neighbor/state/system-name",
    some ⟨.contains, .text remote⟩, "LLDP " ++ name ++ " connects to " ++ remote, ""⟩

/-- One assertion for each interface behind which a system is named. -/
def assertionsAfter (seen : List String) : List Json.Value → Except Breakdown (List Assertion)
  | [] => .ok []
  | entry :: rest => do
    let name := setText (← ask entry "name")
    if name = "" ∨ startsWithAny skipped name ∨ name ∈ seen then assertionsAfter seen rest
    else
      let remote ← firstSystem ((member? entry "neighbors").elim [] (entries · "neighbor"))
      if remote = "" then assertionsAfter seen rest
      else
        return neighborAssertion name remote :: (← assertionsAfter (name :: seen) rest)

def assertions (doc : Json.Value) : Except Breakdown (List Assertion) :=
  assertionsAfter [] (entries doc "interface")

def generator : Generator where
  area := area
  survey := do
    match ← area.query path with
    | none => pure []
    | some doc => Survey.checked (assertions doc)

end Lldp

end StateCheck.Baseline
