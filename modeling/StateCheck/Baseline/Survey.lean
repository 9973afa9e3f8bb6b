import StateCheck.Baseline.Payload
import StateCheck.Device.Client

/-!
Surveys: questions to a connected device, one path after the other.
-/

namespace StateCheck.Baseline

/-- A connected device. -/
structure Source where
  address : String
  answer : String → Except Fault Device.Answer

/-- What a survey asked and what it found. -/
structure Findings (α : Type) where
  asked : List String
  outcome : Except Fault α

def Survey (α : Type) : Type := Source → Findings α

namespace Survey

variable {α β : Type}

def ofExcept (outcome : Except Fault α) : Survey α := fun _ => ⟨[], outcome⟩

def bind (x : Survey α) (f : α → Survey β) : Survey β := fun s =>
  match (x s).outcome with
  | .ok a => ⟨(x s).asked ++ (f a s).asked, (f a s).outcome⟩
  | .error e => ⟨(x s).asked, .error e⟩

instance : Monad Survey where
  pure a := ofExcept (.ok a)
  bind := bind

def fetch (path : String) : Survey (Except Fault Device.Answer) := fun s =>
  ⟨[path], .ok (s.answer path)⟩

def address : Survey String := fun s => ⟨[], .ok s.address⟩

def fail (f : Failure) : Survey α := fun s => ⟨[], .error (.ofFailure (f.on s.address))⟩

def checked (x : Except Breakdown α) : Survey α := ofExcept (x.mapError .breakdown)

end Survey

/-- An area of device state, and which errors mean that a device does not have it. -/
structure Area where
  name : String
  description : String
  absentStatuses : List Status
  /-- Texts with the same meaning, for errors without a status. -/
  absentMarks : List String

namespace Area

def standardStatuses : List Status := [.notFound]

def standardMarks : List String := ["NotFound", "not found"]

/-- Whether a failed request means that the device does not have the area: the status of its
cause decides, and its text only if there is none. -/
def isAbsent (a : Area) (f : Failure) (cause : Option Fault) : Bool :=
  match cause.bind Fault.status? with
  | some s => a.absentStatuses.contains s
  | none => a.absentMarks.any fun m => Text.occursIn m.toList f.text.toList

def queryFailure (a : Area) (path : String) (f : Failure) (address : String) (e : Fault) : Fault :=
  .failure ((Failure.of .generator ("query " ++ path ++ ": " ++ f.message)
    [("generator", a.name)]).on address) (some e)

/-- The document at a path, if the device has one. -/
def query (a : Area) (path : String) : Survey (Option Json.Value) := do
  match ← Survey.fetch path with
  | .error (.failure f cause) =>
    if f.kind = .fetch then
      if a.isAbsent f cause then pure none
      else
        let address ← Survey.address
        Survey.ofExcept (.error (a.queryFailure path f address (.failure f cause)))
    else Survey.ofExcept (.error (.failure f cause))
  | .error e => Survey.ofExcept (.error e)
  | .ok answer =>
    if answer.found then
      let text ← Survey.checked (Device.Value.textOf answer.value)
      if text = "" then pure none
      else
        match decode text with
        | .null => pure none
        | doc => pure (some doc)
    else pure none

end Area

/-- The text at a path, empty if the request fails or the path does not exist. -/
def queryText (path : String) : Survey String := do
  match ← Survey.fetch path with
  | .error (.failure f cause) =>
    if f.kind = .fetch then pure "" else Survey.ofExcept (.error (.failure f cause))
  | .error e => Survey.ofExcept (.error e)
  | .ok answer =>
    if answer.found then
      let text ← Survey.checked (Device.Value.textOf answer.value)
      match decode text with
      | .string s => pure s
      | _ => pure (String.ofList (Text.trimWhile (· = '"') text.toList))
    else pure ""

/-- A generator: an area and the survey that finds the assertions to make about it. -/
structure Generator where
  area : Area
  survey : Survey (List Assertion)

end StateCheck.Baseline
