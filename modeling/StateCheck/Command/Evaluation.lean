import StateCheck.Command.Access
import StateCheck.Report.Page
import StateCheck.Run.Execution

/-!
The commands that read assertion files: checking a file, and evaluating it on its targets.
-/

namespace StateCheck.Command

/-- Checks an assertion file without reaching for any device. -/
def validate (here : Surroundings) (file format : String) : Action Unit := do
  let f ← Action.ofNoted (AssertionFile.load here.yaml here.files file)
  if format = "json" then
    let doc : Json.Value := .object [("valid", .bool true), ("targets", .int f.targets.length),
      ("assertions", .int f.size)]
    Action.say (doc.text (.indented 2))
  else
    Action.say ("✓ Valid: " ++ toString f.targets.length ++ " targets, " ++ toString f.size ++
      " assertions")

/-- A run with all that it depends on. -/
structure Setup where
  options : RunOptions
  file : AssertionFile
  inventory : Option Inventory
  settings : Settings
  /-- The seconds that each connection and each request may take. -/
  timeout : Binary64

/-! ### Preparation -/

/-- The inventory for a file. Without groups there is no need for one. -/
def inventoryFor (here : Surroundings) (o : RunOptions) (f : AssertionFile) :
    Noted (Option Inventory) :=
  let refers := f.targets.any Target.isGroup
  if o.inventory = "" ∧ !refers ∧ o.group = "" then pure none
  else
    let reason :=
      if refers then "assertion file contains @group references but no inventory found"
      else "--group requires an inventory file"
    some <$> requireInventory here o.inventory reason

/-- The file with the groups of an inventory expanded; some target has to be left. -/
def expandGroups (i : Inventory) (f : AssertionFile) (group : String) : Noted AssertionFile := do
  let f ← i.expandFile f group
  if f.targets.isEmpty then
    let message :=
      if group = "" then "no targets found after expanding inventory groups"
      else "no targets match group '" ++ group ++ "'"
    .fail (.of .inventory message [])
  else pure f

def prepare (here : Surroundings) (o : RunOptions) : Noted Setup := do
  let file ← AssertionFile.load here.yaml here.files o.file
  let inventory ← inventoryFor here o file
  let file ← match inventory with
    | some i => expandGroups i file o.group
    | none => pure file
  let settings ← Noted.ofExcept (settingsOf here)
  let settings := match inventory with
    | some i => settings.fillDefaults i.defaults.credentials
    | none => settings
  let limit ← Noted.ofExcept (settings.timeLimit.mapError Fault.ofFailure)
  pure ⟨o, file, inventory, settings, timeLimit o.timeout limit⟩

namespace Setup

def plan (s : Setup) : Run.Plan :=
  ⟨s.file.targets, s.options.workers, s.options.parallel, s.timeout, none, some s.settings⟩

/-- Cancels the run after the first result that is not passed, if that is asked for. -/
def listener (s : Setup) : Run.Listener := fun _ r =>
  ⟨s.options.failFast && r.verdict != .pass, none⟩

/-- How the run was set up, for the head of its report. -/
def environment (s : Setup) : Table String :=
  let optional (name value : String) := if value = "" then [] else [(name, value)]
  Table.ofList <|
    [("netsert", versionNumber), ("workers", toString s.options.workers),
      ("parallel", toString s.options.parallel),
      ("timeout", String.ofList (Decimal.general 6 s.timeout) ++ "s")] ++
    ((s.inventory.bind (·.source)).map fun path => ("inventory", path)).toList ++
    optional "group" s.options.group

def report (s : Setup) (timestamp : String) (o : Run.Outcome) : Report :=
  let title := if s.options.title = "" then Report.standardTitle else s.options.title
  ⟨o, title, s.options.file, timestamp, s.environment⟩

end Setup

/-! ### Conclusion -/

/-- The lines about the results of a run, as they were recorded. -/
def resultTexts (verbose : Bool) (s : Run.State) : List String :=
  s.records.map fun r => Report.resultText r.result verbose

/-- How often a run was interrupted from outside. -/
def interruptions (s : Run.State) : Nat :=
  s.events.countP fun e =>
    match e with
    | .interrupted => true
    | _ => false

def deedsOf (s : Run.State) : List Deed :=
  s.events.filterMap fun e =>
    match e with
    | .opened _ c => some (.opened c)
    | .refused _ c _ => some (.refused c)
    | .asked _ _ c path timeout => some (.asked c path (some timeout))
    | .closed _ c => some (.closed c)
    | _ => none

/-- The exit code for the outcome of a run. -/
def exitCode (o : Run.Outcome) : Nat :=
  if o.succeeded && !o.cancelled then 0 else Action.failureCode

def outcomeText (format : String) (r : Report) : String :=
  if format = "json" then r.jsonText (some 2)
  else if format = "html" then r.html
  else "\n" ++ Report.summaryText r.outcome

def savePage (o : RunOptions) (r : Report) : Action Unit := do
  Action.setFiles (r.save o.page (← get).files)
  if o.format = standardFormat then Action.say ("Report: " ++ o.page)

/-- Tells what became of a run that has come to its final state. -/
def conclude (here : Surroundings) (setup : Setup) (s : Run.State) : Action Unit := do
  let o := setup.options
  Action.record (deedsOf s)
  Action.complainAll (List.replicate (interruptions s) "\nInterrupted, stopping...")
  if o.format = standardFormat then Action.sayAll (resultTexts o.verbose s)
  let outcome ← Action.ofNoted (Run.conclude s)
  let report := setup.report here.timestamp outcome
  Action.say (outcomeText o.format report)
  if o.page ≠ "" then savePage o report
  if exitCode outcome ≠ 0 then Action.stop (.exit (exitCode outcome))

def formats : List String := [standardFormat, "json", "html"]

/-- Evaluates an assertion file on its targets; `execute` brings the run to its final state. -/
def runWith (here : Surroundings) (o : RunOptions)
    (execute : Run.Plan → Run.Listener → Run.State) : Action Unit := do
  if !formats.contains o.format then
    Action.refuse ("unknown output format '" ++ o.format ++ "' (use text, json or html)")
  let setup ← Action.ofNoted (prepare here o)
  if o.format = standardFormat then Action.say ("Running assertions from " ++ o.file ++ "\n")
  conclude here setup (execute setup.plan setup.listener)

/-- Evaluates an assertion file on the devices of the network. -/
def run (here : Surroundings) (o : RunOptions) : Action Unit :=
  runWith here o fun plan listener =>
    Run.finish plan (.ofDevices here.network) listener false

end StateCheck.Command
