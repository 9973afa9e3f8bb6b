import StateCheck.Assertion.Basic
import StateCheck.Files
import StateCheck.Noted
import StateCheck.Number.Reading
import StateCheck.Path.Reading
import StateCheck.Path.Short
import StateCheck.Yaml.Writer

/-!
Assertion files as documents: what a document has to look like, and the document of a file.
-/

namespace StateCheck

namespace Yaml.Value

/-- A member of a mapping; null counts as missing. -/
def given? (v : Value) (name : String) : Option Value :=
  match v.get? name with
  | some null => none
  | member => member

/-- The text of a scalar in a document: missing or null is empty, truth values are in lower
case. -/
def labelText : Option Value → Except Breakdown String
  | none | some null => .ok ""
  | some (bool b) => .ok (if b then "true" else "false")
  | some v => v.written

/-- Whether a scalar switches something on. -/
def isOn : Value → Bool
  | string s => ["true", "yes", "1"].contains (String.ofList (Text.lower (Text.trim s.toList)))
  | v => v.isTruthy

/-- The member `name` unless it is false, zero or empty. -/
def truthy? (v : Value) (name : String) : Option Value := (v.get? name).filter isTruthy

/-- The items of a list-like member, which may be left out. -/
def items? (v : Value) (name : String) : Option (List Value) :=
  match v.truthy? name with
  | none => some []
  | some (list items) => some items
  | some _ => none

end Yaml.Value

namespace Predicate

open Yaml.Value

/-- The kinds that compare with a text, in the order in which they are considered. -/
def comparing : List Kind := [.equals, .contains, .fits, .above, .below, .atLeast, .atMost]

/-- The kinds that a document of an assertion gives. -/
def declared (doc : Yaml.Value) : List Kind := Kind.all.filter fun k => (doc.given? k.key).isSome

/-- The one predicate that counts among those that a document gives: a flag that is switched on,
else the first comparing kind, else a flag that is switched off. -/
def select (doc : Yaml.Value) : Except Breakdown (Option Predicate) :=
  let kinds := declared doc
  match kinds.find? fun k => k.isFlag && (doc.given? k.key).any isOn with
  | some k => .ok (some ⟨k, .flag true⟩)
  | none =>
    match comparing.find? kinds.contains with
    | some k => (labelText (doc.given? k.key)).map fun s => some ⟨k, .text s⟩
    | none => .ok (kinds.head?.map fun k => ⟨k, .flag false⟩)

/-- The threshold of a numeric predicate that is no number. -/
def badThreshold? : Option Predicate → Option (Kind × String)
  | some ⟨k, .text s⟩ =>
    if k.isNumeric && (Numeral.readFloat? s.toList).isNone then some (k, s) else none
  | _ => none

end Predicate

namespace AssertionFile

open Yaml.Value

def malformed {α : Type} (message : String) : Noted α := .fail (.of .assertionFile message [])

def malformedOn {α : Type} (host message : String) (details : List (String × String)) : Noted α :=
  .fail ((Failure.of .assertionFile message details).on host)

def severalPredicates (place : String) (kinds : List Predicate.Kind) : String :=
  place ++ " declares several predicates (" ++
    Text.joinWith ", " (kinds.map Predicate.Kind.key) ++ "); only one is evaluated"

def readPredicate (place host : String) (doc : Yaml.Value) : Noted (Option Predicate) := do
  let kinds := Predicate.declared doc
  if 1 < kinds.length then Noted.note (severalPredicates place kinds)
  let selected ← Noted.orBreakOff (Predicate.select doc)
  match Predicate.badThreshold? selected with
  | some (k, s) =>
    malformedOn host (place ++ ": '" ++ k.key ++ "' threshold is not numeric") [("threshold", s)]
  | none => pure selected

def readAssertion (target : Nat) (host : String) (index : Nat) (doc : Yaml.Value) :
    Noted Assertion := do
  let place := "target " ++ toString target ++ ", assertion " ++ toString index
  match doc with
  | .mapping _ =>
    let path ← Noted.orBreakOff (labelText (doc.get? "path"))
    if path = "" then malformedOn host (place ++ ": path is required") []
    else
      let canonical := Path.expand path
      match Path.read canonical with
      | .error e => .fail e.failure
      | .ok _ =>
        let predicate ← readPredicate place host doc
        let name ← Noted.orBreakOff (labelText (doc.get? "name"))
        let description ← Noted.orBreakOff (labelText (doc.get? "description"))
        pure ⟨canonical, predicate, name, description⟩
  | _ => malformedOn host (place ++ ": must be a mapping") []

/-- The host of a target, which may also be given as its address. -/
def hostOf (doc : Yaml.Value) : Except Breakdown String :=
  match doc.truthy? "host", doc.truthy? "address" with
  | some v, _ | none, some v => v.written
  | none, none => .ok ""

def readTarget (index : Nat) (doc : Yaml.Value) : Noted Target := do
  let place := "target " ++ toString index
  match doc with
  | .mapping _ =>
    let host ← Noted.orBreakOff (hostOf doc)
    if host = "" then malformed (place ++ ": host is required")
    else
      match doc.items? "assertions" with
      | none => malformedOn host (place ++ ": 'assertions' must be a list") []
      | some items =>
        let username ← Noted.orBreakOff (labelText (doc.get? "username"))
        let password ← Noted.orBreakOff (labelText (doc.get? "password"))
        let assertions ← Noted.each (readAssertion index host) items
        pure ⟨host, ⟨username, password, (doc.truthy? "insecure").isSome⟩, assertions⟩
  | _ => malformed (place ++ ": must be a mapping")

/-- The file that a document describes; a document that counts as unset is an empty file. -/
def ofDocument (doc : Yaml.Value) : Noted AssertionFile :=
  if !doc.isTruthy then pure ⟨[]⟩
  else
    match doc with
    | .mapping _ =>
      match doc.items? "targets" with
      | none => malformed "'targets' must be a list"
      | some items => AssertionFile.mk <$> Noted.each readTarget items
    | _ => malformed "assertion file must be a mapping with a 'targets' list"

/-- The file that a YAML text describes. -/
def read (yaml : Yaml.Reader) (text : List Char) : Noted AssertionFile :=
  match yaml text with
  | .ok doc => ofDocument doc
  | .error .malformed => malformed "parsing YAML: <yaml error>"
  | .error (.breakdown b) => .breakOff b

/-- The file that the text at a path describes. -/
def load (yaml : Yaml.Reader) (files : Files) (path : String) : Noted AssertionFile :=
  match files.readText (Files.normal path) with
  | .ok text => read yaml text
  | .error (.refused r) =>
    .fail (.of .assertionFile ("reading file: " ++ r.text (Files.normal path)) [("file", path)])
  | .error .notUtf8 => .breakOff .notUtf8
  | .error .badName => .breakOff .unreadable

/-! ### Writing -/

def textMember (key text : String) : List (Yaml.Value × Yaml.Value) :=
  if text = "" then [] else [(.string key, .string text)]

def operandValue : Predicate.Operand → Yaml.Value
  | .text s => .string s
  | .flag b => .bool b

def assertionDocument (shortPaths : Bool) (a : Assertion) : Yaml.Value :=
  .mapping <|
    textMember "name" a.name ++ textMember "description" a.description ++
    [(.string "path", .string (if shortPaths then Path.compact a.path else a.path))] ++
    (a.predicate.map fun p => (.string p.kind.key, operandValue p.operand)).toList

def targetDocument (shortPaths : Bool) (t : Target) : Yaml.Value :=
  .mapping <|
    [(.string "host", .string t.host)] ++
    textMember "username" t.credentials.username ++ textMember "password" t.credentials.password ++
    (if t.credentials.insecure then [(.string "insecure", .bool true)] else []) ++
    [(.string "assertions", .list (t.assertions.map (assertionDocument shortPaths)))]

/-- The members of the document of a file. -/
def toMembers (shortPaths : Bool) (f : AssertionFile) : List (Yaml.Value × Yaml.Value) :=
  [(.string "targets", .list (f.targets.map (targetDocument shortPaths)))]

/-- The YAML text of a file. -/
def write (shortPaths : Bool) (f : AssertionFile) : String := Yaml.write (f.toMembers shortPaths)

end AssertionFile

end StateCheck
