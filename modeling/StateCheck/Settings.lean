import StateCheck.Assertion.Document
import StateCheck.Credentials
import StateCheck.Duration
import StateCheck.Files
import StateCheck.Table

/-!
Settings: credentials for all devices and for single ones, and where they are looked for.
-/

namespace StateCheck

namespace Yaml.Value

/-- The text of a member of a document, empty if the member is false, zero or missing. -/
def settingText (v : Value) (name : String) : Except Breakdown String :=
  match v.truthy? name with
  | some w => w.written
  | none => .ok ""

def settingFlag (v : Value) (name : String) : Bool := (v.truthy? name).isSome

def settingCredentials (v : Value) : Except Breakdown Credentials := do
  let username ← v.settingText "username"
  let password ← v.settingText "password"
  .ok ⟨username, password, v.settingFlag "insecure"⟩

/-- The members of a mapping, or of a member that counts as unset. -/
def settingMembers? : Option Value → Option (List (Value × Value))
  | none => some []
  | some (mapping members) => some members
  | some v => if v.isTruthy then none else some []

end Yaml.Value

/-- Credentials for one device; whether it is insecure may be left open. -/
structure Overrides where
  username : String
  password : String
  insecure : Option Bool

structure Settings where
  defaults : Credentials
  /-- The text of the time limit for all devices, empty if there is none. -/
  timeout : String
  overrides : Table Overrides
  /-- The file that the settings come from. -/
  source : Option String

namespace Settings

def empty : Settings := ⟨.none, "", .empty, none⟩

/-- The credentials for an address: those of the device, filled from the defaults. -/
def credentials (s : Settings) (address : String) : Credentials :=
  match s.overrides.get? address with
  | some o => (Credentials.mk o.username o.password (o.insecure.getD false)).fill s.defaults
  | none => Credentials.none.fill s.defaults

/-- The settings with their defaults filled from others. -/
def fillDefaults (s : Settings) (c : Credentials) : Settings :=
  { s with defaults := s.defaults.fill c }

/-- The time limit in seconds, if there is one. -/
def timeLimit (s : Settings) : Except Failure (Option Binary64) :=
  if s.timeout = "" then .ok none else (Duration.read s.timeout).map some

/-! ### Reading -/

def overridesOf (doc : Yaml.Value) : Except Breakdown Overrides :=
  if !doc.isTruthy then .ok ⟨"", "", none⟩
  else
    match doc with
    | .mapping _ => do
      let username ← doc.settingText "username"
      let password ← doc.settingText "password"
      .ok ⟨username, password, (doc.given? "insecure").map Yaml.Value.isTruthy⟩
    | _ => .error .notMapping

def readOverrides (table : Table Overrides) :
    List (Yaml.Value × Yaml.Value) → Except Breakdown (Table Overrides)
  | [] => .ok table
  | (address, doc) :: rest => do
    let o ← overridesOf doc
    let address ← address.written
    readOverrides (table.put address o) rest

/-- The settings that a document gives. -/
def ofDocument (doc : Yaml.Value) (source : Option String) : Except Fault Settings :=
  match doc with
  | .mapping _ =>
    let defaults := doc.get? "defaults"
    match Yaml.Value.settingMembers? defaults, Yaml.Value.settingMembers? (doc.get? "targets") with
    | some members, some targets => do
      let overrides ← (readOverrides .empty targets).mapError .breakdown
      let defaults := Yaml.Value.mapping members
      let credentials ← defaults.settingCredentials.mapError .breakdown
      let timeout ← (defaults.settingText "timeout").mapError .breakdown
      .ok ⟨credentials, timeout, overrides, source⟩
    | _, _ =>
      .error (.ofFailure (.of .config "'defaults' and 'targets' must be mappings"
        [("source", source.getD "None")]))
  | _ => .error (.breakdown .notMapping)

def unusable {α : Type} (message : String) : Except Fault α :=
  .error (.ofFailure (.of .config message []))

/-- The settings in a file. -/
def loadFile (yaml : Yaml.Reader) (files : Files) (path : String) : Except Fault Settings :=
  let path := Files.normal path
  match files.readText path with
  | .error (.refused .missing) => .error (.breakdown .fileMissing)
  | .error (.refused r) => unusable ("Cannot read config file " ++ path ++ ": " ++ r.text path)
  | .error .notUtf8 => unusable ("Cannot read config file " ++ path ++ ": <decode error>")
  | .error .badName => .error (.breakdown .unreadable)
  | .ok text =>
    match yaml text with
    | .error .malformed => unusable ("Invalid YAML in config file " ++ path)
    | .error (.breakdown b) => .error (.breakdown b)
    | .ok doc =>
      match if doc.isTruthy then doc else .mapping [] with
      | .mapping members => ofDocument (.mapping members) (some path)
      | _ => unusable ("Config file " ++ path ++ " must contain a mapping")

/-- Where settings are looked for, the first place first. -/
def standardPaths (home : String) : List String :=
  ["netsert.yaml", ".netsert.yaml", home ++ "/.netsert.yaml",
    home ++ "/.config/netsert/config.yaml"]

/-- The settings in the first of the files that exists. -/
def load (yaml : Yaml.Reader) (files : Files) : List String → Except Fault Settings
  | [] => .ok empty
  | path :: paths =>
    match loadFile yaml files path with
    | .error (.breakdown .fileMissing) => load yaml files paths
    | outcome => outcome

end Settings

end StateCheck
