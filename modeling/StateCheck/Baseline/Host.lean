import StateCheck.Baseline.Survey

/-!
Assertions about the identity of a device.
-/

namespace StateCheck.Baseline.Host

def area : Area where
  name := "system"
  description := "Generate assertions for system hostname and software version"
  absentStatuses := Area.standardStatuses
  absentMarks := Area.standardMarks

def namePaths : List String := ["/system/state/hostname", "/system/config/hostname"]

def versionPath : String := "/system/state/software-version"

/-- The first text that is not empty. -/
def firstText : List String → Survey String
  | [] => pure ""
  | path :: paths => do
    let text ← queryText path
    if text = "" then firstText paths else pure text

def statement (label path value : String) : List Assertion :=
  if value = "" then [] else [equality (label ++ " is " ++ value) path value]

def generator : Generator where
  area := area
  survey := do
    let name ← firstText namePaths
    let version ← queryText versionPath
    pure (statement "Hostname" "system/state/hostname" name ++
      statement "Software version" "system/state/software-version" version)

end StateCheck.Baseline.Host
