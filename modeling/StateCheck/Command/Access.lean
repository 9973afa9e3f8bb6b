import StateCheck.Command.Action
import StateCheck.Command.Request
import StateCheck.Inventory.Reading
import StateCheck.Settings

/-!
How commands reach devices: the settings and inventories that they use, and the connections that
these lead to.
-/

namespace StateCheck.Command

/-- The seconds that connections and requests may take if nothing else is set. -/
def standardSeconds : Binary64 := .ofNat 30

/-- The time limit that is asked for, else the one that is set, else the standard one. -/
def timeLimit (asked set : Option Binary64) : Binary64 := (asked.or set).getD standardSeconds

def settingsOf (here : Surroundings) : Except Fault Settings :=
  Settings.load here.yaml here.files (Settings.standardPaths here.home)

/-- The inventory in a file, or, without the name of a file, in the first of the standard ones. -/
def requireInventory (here : Surroundings) (file reason : String) : Noted Inventory := do
  if file = "" then
    match ← Inventory.discover here.yaml here.files Inventory.standardPaths with
    | some i => pure i
    | none => .fail (.of .inventory (reason ++ " - create inventory.yaml or pass -i") [])
  else Inventory.load here.yaml here.files file

/-- The connection to a single device, with what is left open taken from settings. -/
def Access.connection (a : Access) (settings : Settings) (limit : Option Binary64) :
    Device.Connection :=
  let c : Device.Connection :=
    ⟨a.target, a.credentials, timeLimit a.timeout limit, Device.Connection.standardTransport⟩
  c.fill (settings.credentials a.target)

/-- The connection to a single device under the settings that are found. -/
def connect (here : Surroundings) (a : Access) : Except Fault Device.Connection := do
  let settings ← settingsOf here
  let limit ← settings.timeLimit.mapError Fault.ofFailure
  .ok (a.connection settings limit)

end StateCheck.Command
