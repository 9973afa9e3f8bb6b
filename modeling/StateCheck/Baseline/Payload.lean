import StateCheck.Assertion.Basic
import StateCheck.Json.Reader
import StateCheck.Text.Blank
import StateCheck.Yaml.Value

/-!
The documents in which devices report their state. Names of members may have the name of a module
in front, set apart by a colon.
-/

namespace StateCheck.Baseline

/-- The document that a text spells, or the text itself if it spells none. -/
def decode (text : String) : Json.Value := (Json.read? text.toList).getD (.string text)

def localName (name : String) : String := String.ofList (Text.afterLast ':' name.toList)

def isNamed (name key : String) : Bool := key == name || localName key == name

def isObject : Json.Value → Bool
  | .object _ => true
  | _ => false

/-- The objects in a list. -/
def objects (items : List Json.Value) : List Json.Value := items.filter isObject

def listAmong (name : String) : List (String × Json.Value) → List Json.Value
  | [] => []
  | (k, .array items) :: ms => if isNamed name k then objects items else listAmong name ms
  | _ :: ms => listAmong name ms

/-- The objects in the first list under a name, with or without a module in front. -/
def entries (doc : Json.Value) (name : String) : List Json.Value :=
  match doc with
  | .object members => listAmong name members
  | _ => []

def memberAmong? (name : String) (members : List (String × Json.Value)) : Option Json.Value :=
  (members.find? fun m => localName m.1 == name).map Prod.snd

/-- The member of a name, or else the first one with a module in front of it. -/
def member? (doc : Json.Value) (name : String) : Option Json.Value :=
  match doc with
  | .object members => (doc.get? name).or (memberAmong? name members)
  | _ => none

/-- The member of a name if it counts as set. -/
def setMember? (doc : Json.Value) (name : String) : Option Json.Value :=
  (member? doc name).filter Json.Value.isTruthy

/-- The state of an entry, which is empty if it is left out. -/
def stateOf (entry : Json.Value) : Json.Value := (setMember? entry "state").getD (.object [])

/-- A member under exactly its name. Only objects can be asked for one. -/
def ask (doc : Json.Value) (name : String) : Except Breakdown (Option Json.Value) :=
  match doc with
  | .object _ => .ok (doc.get? name)
  | _ => .error .notMapping

def textOf (v : Json.Value) : String := (Yaml.Value.ofJson v).text

/-- The text of a value, empty if the value does not count as set. -/
def setText (v : Option Json.Value) : String := (v.filter Json.Value.isTruthy).elim "" textOf

/-- The text of a member that an entry has itself or else its state has. -/
def textWithState (entry state : Json.Value) (name : String) : Except Breakdown String := do
  let own := setText (← ask entry name)
  if own = "" then do return setText (← ask state name) else return own

/-- The text of a member that may be left out. -/
def askText (doc : Json.Value) (name : String) : Except Breakdown String := do
  return (← ask doc name).elim "" textOf

/-- Runs over a list and gathers what is found. -/
def gather {α β : Type} (f : α → Except Breakdown (List β)) : List α → Except Breakdown (List β)
  | [] => .ok []
  | a :: as => do
    let first ← f a
    let rest ← gather f as
    return first ++ rest

/-- The assertion that the value at a path is the given one. -/
def equality (name path value : String) : Assertion :=
  ⟨path, some ⟨.equals, .text value⟩, name, ""⟩

def startsWithAny (starts : List String) (s : String) : Bool :=
  starts.any fun p => p.toList.isPrefixOf s.toList

end StateCheck.Baseline
