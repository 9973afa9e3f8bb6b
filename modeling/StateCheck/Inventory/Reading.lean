import StateCheck.Assertion.Document
import StateCheck.Device.Value
import StateCheck.Files
import StateCheck.Inventory.Basic
import StateCheck.Settings

/-!
Reading inventories: YAML documents, files of sections with one host a line, and the places where
an inventory is looked for.
-/

namespace StateCheck.Inventory

def refuse {α : Type} (message : String) (details : List (String × String)) : Noted α :=
  .fail (.of .inventory message details)

/-! ### Documents -/

/-- The whole number for which a value stands. -/
def wholeNumber : Yaml.Value → Except Breakdown Int
  | .bool b => .ok b.toNat
  | .int i => .ok i
  | .float x => (Device.Payload.float x).toInt
  | .string s => (Device.Payload.string s).toInt
  | .bytes bs => (Device.Payload.bytes bs).toInt
  | _ => .error .wrongType

/-- The default port of a document; null and an empty text stand for none. -/
def readPort : Option Yaml.Value → Noted Int
  | none | some .null | some (.string "") => pure 0
  | some v =>
    match wholeNumber v with
    | .error .overflow => .breakOff .overflow
    | .error _ => do
      let text ← Noted.orBreakOff v.written
      refuse ("invalid default port '" ++ text ++ "'") []
    | .ok port =>
      if 0 ≤ port ∧ port ≤ 65535 then pure port
      else do
        let text ← Noted.orBreakOff (Yaml.Value.int port).written
        refuse ("default port " ++ text ++ " out of range") []

/-- The members of a group: a list, a single host, or nothing. -/
def readMembers (name : Yaml.Value) : Yaml.Value → Noted (List String)
  | .null => pure []
  | .string s => pure [s]
  | .list items => Noted.each (fun _ item => Noted.orBreakOff item.written) items
  | v => do
    let text ← Noted.orBreakOff name.written
    refuse ("group '" ++ text ++ "' must be a list of hosts") [("got", v.typeName)]

def readGroups (groups : Table (List String)) :
    List (Yaml.Value × Yaml.Value) → Noted (Table (List String))
  | [] => pure groups
  | (name, members) :: rest => do
    let members ← readMembers name members
    let name ← Noted.orBreakOff name.written
    readGroups (groups.put name members) rest

/-- The inventory that a document describes. -/
def ofDocument (doc : Yaml.Value) : Noted Inventory := do
  match if doc.isTruthy then doc else .mapping [] with
  | .mapping members =>
    let doc := Yaml.Value.mapping members
    match Yaml.Value.settingMembers? (doc.get? "groups") with
    | none => refuse "'groups' must be a mapping of group name to host list" []
    | some groups =>
      let groups ← readGroups .empty groups
      match Yaml.Value.settingMembers? (doc.get? "defaults") with
      | none => refuse "'defaults' must be a mapping" []
      | some defaults =>
        let defaults := Yaml.Value.mapping defaults
        let credentials ← Noted.orBreakOff defaults.settingCredentials
        let port ← readPort (defaults.get? "port")
        expandReferences ⟨groups, ⟨credentials, port⟩, none⟩
  | _ => refuse "YAML inventory must be a mapping" []

def readYaml (yaml : Yaml.Reader) (text : List Char) : Noted Inventory :=
  match yaml text with
  | .ok doc => ofDocument doc
  | .error .malformed => refuse "Invalid YAML inventory: <yaml error>" []
  | .error (.breakdown b) => .breakOff b

/-! ### Sections -/

/-- A line of a file of sections. -/
inductive Line
  | nothing
  /-- A header, with the group and the kind of the section. -/
  | header (group kind : String)
  | entry (text : List Char)

def lineOf (cs : List Char) : Line :=
  match Text.trim cs with
  | [] | '#' :: _ | ';' :: _ => .nothing
  | '[' :: rest =>
    match rest.reverse with
    | ']' :: inner =>
      let (group, kind) := Text.cutAt ':' inner.reverse
      .header (String.ofList group) (String.ofList (kind.getD []))
    | _ => .entry ('[' :: rest)
  | cs => .entry cs

/-- The address in a line: what it is set to, or else its first word. -/
def hostOf (cs : List Char) : String :=
  let key := "ansible_host=".toList
  match Text.words cs with
  | [] => ""
  | name :: fields =>
    match fields.find? fun f => key.isPrefixOf f with
    | some f => String.ofList (f.drop key.length)
    | none => String.ofList name

/-- The member that a line adds to a section of a kind; sections of variables have none. -/
def memberOf? (kind : String) (cs : List Char) : Option String :=
  if kind = "vars" then none
  else if kind = "children" then
    some ("@" ++ String.ofList ((Text.words cs).headD []))
  else
    let host := hostOf cs
    if host = "" then none else some host

def addMember (groups : Table (List String)) (group member : String) : Table (List String) :=
  groups.put group ((groups.get? group).getD [] ++ [member])

/-- The groups of the lines that follow, within a section of a group and a kind. -/
def readLines (groups : Table (List String)) (section? : Option (String × String)) :
    List Line → Table (List String)
  | [] => groups
  | .nothing :: rest => readLines groups section? rest
  | .header group kind :: rest =>
    readLines ((groups.add? group []).getD groups) (some (group, kind)) rest
  | .entry cs :: rest =>
    match section? with
    | none => readLines groups section? rest
    | some (group, kind) =>
      match memberOf? kind cs with
      | some m => readLines (addMember groups group m) section? rest
      | none => readLines groups section? rest

/-- The inventory of a file of sections. Lines before the first header do not count. -/
def readSections (text : List Char) : Noted Inventory :=
  let groups := readLines .empty none ((Text.lines text).map lineOf)
  expandReferences ⟨groups, ⟨.none, 0⟩, none⟩

/-! ### Files -/

/-- Reads a text with each of the readers until one finds groups; the messages of the readers
that failed are kept. -/
def firstOf (path : String) (text : List Char) :
    (messages : List String) → List (List Char → Noted Inventory) → Noted Inventory
  | messages, [] =>
    refuse "unable to parse inventory (tried YAML and INI)"
      (("file", path) ::
        if messages.isEmpty then [] else [("errors", Text.joinWith "; " messages)])
  | messages, reader :: readers =>
    let attempt := reader text
    match attempt.outcome with
    | .error (.failure f cause) =>
      if f.kind = .inventory then
        let rest := firstOf path text (messages ++ [f.message]) readers
        ⟨attempt.notices ++ rest.notices, rest.outcome⟩
      else ⟨attempt.notices, .error (.failure f cause)⟩
    | .error e => ⟨attempt.notices, .error e⟩
    | .ok i =>
      if i.groups.isEmpty then
        let rest := firstOf path text messages readers
        ⟨attempt.notices ++ rest.notices, rest.outcome⟩
      else ⟨attempt.notices, .ok { i with source := some path }⟩

/-- The inventory in a file. -/
def load (yaml : Yaml.Reader) (files : Files) (path : String) : Noted Inventory :=
  let path := Files.normal path
  match files.readText path with
  | .error (.refused r) => refuse ("read inventory: " ++ r.text path) [("file", path)]
  | .error .notUtf8 => .breakOff .notUtf8
  | .error .badName => .breakOff .unreadable
  | .ok text => firstOf path text [] [readYaml yaml, readSections]

def standardPaths : List String :=
  ["inventory.yaml", "inventory.yml", "inventory.ini", "inventory", "hosts.yaml", "hosts.yml",
    "hosts"]

/-- The inventory in the first of the files that holds one. -/
def discover (yaml : Yaml.Reader) (files : Files) : List String → Noted (Option Inventory)
  | [] => pure none
  | path :: paths =>
    match files.isFile path with
    | .error r => .breakOff r.breakdown
    | .ok false => discover yaml files paths
    | .ok true =>
      let attempt := load yaml files path
      match attempt.outcome with
      | .ok i => ⟨attempt.notices, .ok (some i)⟩
      | .error (.failure f cause) =>
        if f.kind = .inventory then
          let rest := discover yaml files paths
          ⟨attempt.notices ++ rest.notices, rest.outcome⟩
        else ⟨attempt.notices, .error (.failure f cause)⟩
      | .error e => ⟨attempt.notices, .error e⟩

end StateCheck.Inventory
