import StateCheck.Command.Evaluation
import StateCheck.Command.Exploration

/-!
The program: what its arguments ask for, done in its surroundings.
-/

namespace StateCheck.Command

def versionText : String := "netsert " ++ versionNumber

def usage : String :=
  "Usage: netsert run|validate|get|generate|paths expand|paths compact|version [OPTIONS] ARGS"

/-- Does what is asked for. -/
def Request.perform (here : Surroundings) : Request → Action Unit
  | .help => Action.say usage
  | .run o => Command.run here o
  | .validate file format => Command.validate here file format
  | .get access path format => inspect here access path format
  | .generate o => Command.generate here o
  | .expandPath path => do
    let p ← Action.expect ((Path.read (Path.expand path)).mapError fun e => .ofFailure e.failure)
    Action.say p.text
  | .compactPath path => Action.say (Path.compact path)
  | .version => Action.say versionText

def usageCode : Nat := 2

/-- How the program ended, and what it did. -/
structure Ending where
  code : Nat
  /-- The fault that broke the program off, if one did. -/
  fault : Option Fault
  trace : Trace

def start (here : Surroundings) : Trace := ⟨"", "", [], [], here.files⟩

/-- The program from its arguments to its end. -/
def program (here : Surroundings) (args : List String) : Ending :=
  match Request.read args with
  | none => ⟨usageCode, none, { start here with errors := usage ++ "\n" }⟩
  | some request =>
    match (request.perform here).run (start here) with
    | (.ok (), t) => ⟨0, none, t⟩
    | (.error (.exit code), t) => ⟨code, none, t⟩
    | (.error (.fault e), t) => ⟨Action.failureCode, some e, t⟩

end StateCheck.Command
