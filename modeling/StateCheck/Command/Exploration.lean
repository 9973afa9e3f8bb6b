import StateCheck.Baseline.Generation
import StateCheck.Command.Access

/-!
The commands that explore devices: asking for a single path, and generating a baseline.
-/

namespace StateCheck.Command

/-- Asks a device for the value at a path. -/
def inspect (here : Surroundings) (a : Access) (path format : String) : Action Unit := do
  let canonical := Path.expand path
  let c ← Action.expect (connect here a)
  let answer ← Action.inSession here.network c [.asked c canonical (some c.timeout)]
    (here.network.fetch c canonical (some c.timeout)).outcome
  let value ← Action.expect ((Device.Value.textOf answer.value).mapError .breakdown)
  if format = "json" then
    let doc : Json.Value := .object [("target", .string a.target), ("path", .string canonical),
      ("exists", .bool answer.found), ("value", .string value)]
    Action.say (doc.text (.indented 2))
  else
    Action.say ("Path: " ++ canonical)
    Action.say (if answer.found then "Value: " ++ value else "Exists: false")

/-! ### Baselines -/

/-- The names of the generators to run; all of them have to be known. -/
def generatorNames (c : Baseline.Catalogue) (names : List String) : Except Failure (List String) :=
  if names.isEmpty then .ok (Text.sorted (Table.names c))
  else
    match names.filter fun n => (Table.get? c n).isNone with
    | [] => .ok names
    | unknown =>
      .error (.of .generator ("Unknown generator(s): " ++ Text.joinWith ", " unknown)
        [("available", c.listing)])

/-- The hosts for which a target stands: itself, or the members of its group. -/
def hostsOf (here : Surroundings) (o : BaselineOptions) : Noted (List String) := do
  let target := o.access.target
  match Inventory.reference? target with
  | none => pure [target]
  | some group =>
    let i ← requireInventory here o.inventory ("target " ++ target ++ " requires inventory")
    match i.groups.get? group with
    | none =>
      Inventory.refuse ("group '" ++ group ++ "' not found in inventory")
        [("groups", Text.joinWith ", " i.groups.names)]
    | some [] => Inventory.refuse ("group '" ++ group ++ "' is empty") []
    | some members => pure (members.map i.defaults.address)

/-- The file about one host. -/
def surveyHost (here : Surroundings) (a : Access) (names : List String) (host : String) :
    Action AssertionFile := do
  let c ← Action.expect (connect here { a with target := host })
  let source : Baseline.Source := ⟨host, fun path => (here.network.fetch c path none).outcome⟩
  let findings := Baseline.file .standard names host source
  Action.inSession here.network c (findings.asked.map fun path => .asked c path none)
    findings.outcome

/-- The targets of the files about hosts; of several hosts each is reported as it is done. -/
def surveyHosts (here : Surroundings) (a : Access) (names : List String) (several : Bool) :
    List String → Action (List Target)
  | [] => pure []
  | host :: hosts => do
    let f ← surveyHost here a names host
    if several then
      Action.complain ("Generated from " ++ host ++ " (" ++ toString f.size ++ " assertions)")
    let rest ← surveyHosts here a names several hosts
    pure (f.targets ++ rest)

def baselineHeader (target : String) : String :=
  "# Generated by netsert from " ++ target ++ "\n# Review and edit as needed\n\n"

/-- Generates the assertion file that describes the present state of devices. -/
def generate (here : Surroundings) (o : BaselineOptions) : Action Unit := do
  let names ← Action.expect
    ((generatorNames .standard o.generators).mapError Fault.ofFailure)
  let hosts ← Action.ofNoted (hostsOf here o)
  let targets ← surveyHosts here o.access names (1 < hosts.length) hosts
  let f : AssertionFile := ⟨targets⟩
  let text := baselineHeader o.access.target ++ f.write true
  if o.file = "" then Action.put text
  else
    Action.setFiles ((← get).files.write (Files.normal o.file) text)
    Action.say ("Generated " ++ toString f.size ++ " assertions (" ++
      toString targets.length ++ " targets) to " ++ o.file)

end StateCheck.Command
