import StateCheck.Device.Network
import StateCheck.Files
import StateCheck.Noted
import StateCheck.Yaml.Value

/-!
Actions: what commands print, write and ask of devices, until they end or are stopped.
-/

namespace StateCheck.Command

def versionNumber : String := "1.0.0"

/-- What a command finds around it. -/
structure Surroundings where
  files : Files
  /-- The home directory, in which settings may lie. -/
  home : String
  /-- The text of the present time. -/
  timestamp : String
  network : Device.Network
  yaml : Yaml.Reader

/-- Something done with a device. -/
inductive Deed
  | opened (c : Device.Connection)
  | refused (c : Device.Connection)
  | asked (c : Device.Connection) (path : String) (timeout : Option Binary64)
  | closed (c : Device.Connection)

/-- What a command has done. -/
structure Trace where
  output : String
  errors : String
  notices : List String
  deeds : List Deed
  files : Files

/-- Why a command stops before its end. -/
inductive Stop
  | exit (code : Nat)
  /-- A fault that no command takes care of. -/
  | fault (e : Fault)

abbrev Action := ExceptT Stop (StateM Trace)

namespace Action

variable {α : Type}

def stop (s : Stop) : Action α := throw s

def linesText (lines : List String) : String := String.join (lines.map fun l => l ++ "\n")

/-- Prints a text as it is. -/
def put (text : String) : Action Unit := modify fun t => { t with output := t.output ++ text }

/-- Prints lines. -/
def sayAll (lines : List String) : Action Unit := put (linesText lines)

def say (line : String) : Action Unit := sayAll [line]

/-- Prints lines for the user, apart from the output. -/
def complainAll (lines : List String) : Action Unit :=
  modify fun t => { t with errors := t.errors ++ linesText lines }

def complain (line : String) : Action Unit := complainAll [line]

def note (notices : List String) : Action Unit :=
  modify fun t => { t with notices := t.notices ++ notices }

def record (deeds : List Deed) : Action Unit :=
  modify fun t => { t with deeds := t.deeds ++ deeds }

def failureCode : Nat := 1

/-- Says what went wrong and ends the command. -/
def refuse (message : String) : Action α := do
  complain ("Error: " ++ message)
  stop (.exit failureCode)

/-- Goes on with the value of an outcome. A failure is explained and ends the command. -/
def expect : Except Fault α → Action α
  | .ok a => pure a
  | .error (.failure f _) => refuse f.text
  | .error e => stop (.fault e)

def ofNoted (x : Noted α) : Action α := do
  note x.notices
  expect x.outcome

/-- Goes on with files that the system has changed as it was told. -/
def setFiles : Except Files.Refusal Files → Action Unit
  | .ok files => modify fun t => { t with files }
  | .error r => stop (.fault (.breakdown r.breakdown))

/-- Goes on with what comes of the use of a session, which is closed in any case. That closing it
fails is no more than a notice. -/
def inSession (network : Device.Network) (c : Device.Connection) (asked : List Deed)
    (outcome : Except Fault α) : Action α := do
  match network.connect c with
  | some e => do
    record [.refused c]
    expect (.error e)
  | none => do
    record ([.opened c] ++ asked ++ [.closed c])
    if (network.close c).isSome then note ["Error during close in __exit__"]
    expect outcome

end Action

end StateCheck.Command
