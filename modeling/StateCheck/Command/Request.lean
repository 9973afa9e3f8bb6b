import StateCheck.Command.Arguments
import StateCheck.Credentials
import StateCheck.Number.Reading

/-!
Requests: what the arguments of the program ask it to do.
-/

namespace StateCheck.Command

structure RunOptions where
  file : String
  workers : Nat
  parallel : Nat
  /-- The file of the inventory, empty if it is to be looked for. -/
  inventory : String
  /-- The group to which the run is restricted, if the name is not empty. -/
  group : String
  timeout : Option Binary64
  format : String
  /-- Where to write the page of the report; nowhere if empty. -/
  page : String
  title : String
  failFast : Bool
  verbose : Bool

/-- How a single device is to be reached. -/
structure Access where
  target : String
  credentials : Credentials
  timeout : Option Binary64

structure BaselineOptions where
  access : Access
  /-- The generators to run, all if there are none. -/
  generators : List String
  /-- Where to write the file; to the output if empty. -/
  file : String
  inventory : String

inductive Request
  | help
  | run (o : RunOptions)
  | validate (file format : String)
  | get (access : Access) (path format : String)
  | generate (o : BaselineOptions)
  | expandPath (path : String)
  | compactPath (path : String)
  | version

/-! ### Values of options -/

/-- The value of an option, if it is acceptable; without the option there is none. -/
def optional {α : Type} (read : String → Option α) : Option String → Option (Option α)
  | none => some none
  | some s => (read s).map some

/-- A positive whole number. -/
def readCount (s : String) : Option Nat :=
  (Numeral.readInt? s.toList).bind fun i => if 1 ≤ i then some i.toNat else none

/-- The least number of seconds that can be a time limit. -/
def leastSeconds : Binary64 := .ofScientific false 1 (-3)

/-- A number of seconds that is not too small. -/
def readSeconds (s : String) : Option Binary64 :=
  (Numeral.readFloat? s.toList).bind fun x => if x.lt leastSeconds then none else some x

def standardWorkers : Nat := 10

def standardParallel : Nat := 5

namespace Switch

def helps : Switch := ⟨none, "help", false⟩

def output : Switch := ⟨some 'o', "output", true⟩

def verbose : Switch := ⟨some 'v', "verbose", false⟩

def inventory : Switch := ⟨some 'i', "inventory", true⟩

def timeout : Switch := ⟨some 't', "timeout", true⟩

def login : List Switch :=
  [⟨some 'u', "username", true⟩, ⟨some 'P', "password", true⟩, ⟨some 'k', "insecure", false⟩]

def run : List Switch :=
  [helps, ⟨some 'w', "workers", true⟩, ⟨some 'p', "parallel", true⟩, inventory,
    ⟨some 'g', "group", true⟩, timeout, output, ⟨none, "report", true⟩, ⟨none, "title", true⟩,
    ⟨none, "fail-fast", false⟩, verbose]

def validate : List Switch := [helps, output]

def get : List Switch := [helps, timeout, output, verbose] ++ login

def generate : List Switch :=
  [helps, ⟨none, "gen", true⟩, ⟨some 'f', "file", true⟩, inventory, timeout, verbose] ++ login

end Switch

/-! ### Commands -/

def standardFormat : String := "text"

def format (a : Arguments) : String := (a.value? "output").getD standardFormat

def runOptions (a : Arguments) : Option RunOptions := do
  let [file] := a.places | none
  let workers ← optional readCount (a.value? "workers")
  let parallel ← optional readCount (a.value? "parallel")
  let timeout ← optional readSeconds (a.value? "timeout")
  some {
    file
    workers := workers.getD standardWorkers
    parallel := parallel.getD standardParallel
    inventory := a.text "inventory"
    group := a.text "group"
    timeout
    format := format a
    page := a.text "report"
    title := a.text "title"
    failFast := a.isGiven "fail-fast"
    verbose := a.isGiven "verbose" }

def access (a : Arguments) (target : String) : Option Access := do
  let timeout ← optional readSeconds (a.value? "timeout")
  some ⟨target, ⟨a.text "username", a.text "password", a.isGiven "insecure"⟩, timeout⟩

def validateRequest (a : Arguments) : Option Request := do
  let [file] := a.places | none
  some (.validate file (format a))

def getRequest (a : Arguments) : Option Request := do
  let [target, path] := a.places | none
  some (.get (← access a target) path (format a))

def baselineOptions (a : Arguments) : Option BaselineOptions := do
  let [target] := a.places | none
  some ⟨← access a target, a.all "gen", a.text "file", a.text "inventory"⟩

def pathRequest (ask : String → Request) (a : Arguments) : Option Request := do
  let [path] := a.places | none
  some (ask path)

def versionRequest (a : Arguments) : Option Request := do
  let [] := a.places | none
  some .version

/-- Reads the arguments of a command. That help is asked for comes before all that is wrong with
the values. -/
def readCommand (switches : List Switch) (request : Arguments → Option Request)
    (args : List String) : Option Request := do
  let a ← Arguments.read switches args
  if a.isGiven "help" then some .help else request a

/-- The arguments from the name of a command on, and whether help is asked for before it. -/
def skipHelp : List String → Option (Bool × List String)
  | [] => some (false, [])
  | arg :: args =>
    if arg = "--" then some (false, args)
    else if arg = "--help" then (skipHelp args).map fun r => (true, r.2)
    else if arg.toList.head? = some '-' ∧ arg ≠ "-" then none
    else some (false, arg :: args)

/-- Chooses among commands by the name that comes first. -/
def readChoice (commands : List (String × (List String → Option Request)))
    (args : List String) : Option Request :=
  match skipHelp args with
  | none | some (false, []) => none
  | some (true, _) => some .help
  | some (false, name :: args) => (commands.lookup name).bind fun command => command args

def pathCommands : List (String × (List String → Option Request)) :=
  [("expand", readCommand [Switch.helps] (pathRequest .expandPath)),
    ("compact", readCommand [Switch.helps] (pathRequest .compactPath))]

def commands : List (String × (List String → Option Request)) :=
  [("run", readCommand Switch.run fun a => (runOptions a).map .run),
    ("validate", readCommand Switch.validate validateRequest),
    ("get", readCommand Switch.get getRequest),
    ("generate", readCommand Switch.generate fun a => (baselineOptions a).map .generate),
    ("paths", readChoice pathCommands),
    ("version", readCommand [Switch.helps] versionRequest)]

namespace Request

/-- The request that arguments make, unless they are not acceptable. -/
def read (args : List String) : Option Request := readChoice commands args

/-- The files that a request names, to be read or written. -/
def files : Request → List String
  | run o => [o.file, o.inventory, o.page]
  | validate file _ => [file]
  | generate o => [o.inventory, o.file]
  | _ => []

end Request

end StateCheck.Command
