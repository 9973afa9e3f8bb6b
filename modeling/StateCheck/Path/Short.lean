import StateCheck.Path.Basic

/-!
Short forms of common paths. Each shortcut pairs a short shape with the canonical shape that it
stands for; one table serves expansion and compaction.
-/

namespace StateCheck.Path

/-- A shape of path texts: fixed text, with an instance name in it or not, before an arbitrary
rest of the line. -/
inductive Shape
  /-- An instance name without a closing bracket stands between the two texts, of which `after`
  begins with one. -/
  | keyed (before after : String)
  | plain (before : String)

/-- What fills the places of a shape. -/
structure Filling where
  instanceName : List Char
  rest : List Char

namespace Shape

/-- The text of a single line; a line break at its end does not belong to it. -/
def line? (cs : List Char) : Option (List Char) :=
  let text := cs.takeWhile (· ≠ '\n')
  match cs.dropWhile (· ≠ '\n') with
  | [] | [_] => some text
  | _ => none

/-- The text after `start`, if it begins so. -/
def after? (start : List Char) (cs : List Char) : Option (List Char) :=
  if start.isPrefixOf cs then some (cs.drop start.length) else none

/-- How a text fills the shape. -/
def fit? : Shape → List Char → Option Filling
  | keyed before after, cs => do
    let cs ← after? before.toList cs
    let name := cs.takeWhile (· ≠ ']')
    if name.isEmpty then none
    else
      let rest ← after? after.toList (cs.dropWhile (· ≠ ']'))
      let rest ← line? rest
      some ⟨name, rest⟩
  | plain before, cs => do
    let rest ← after? before.toList cs
    let rest ← line? rest
    some ⟨[], rest⟩

/-- The text of the filled shape. -/
def fill : Shape → Filling → List Char
  | keyed before after, f => before.toList ++ f.instanceName ++ after.toList ++ f.rest
  | plain before, f => before.toList ++ f.rest

end Shape

structure Shortcut where
  short : Shape
  canonical : Shape

def protocol (short identifier : String) : Shortcut where
  short := .keyed (short ++ "[") "]/"
  canonical := .keyed "/network-instances/network-instance[name="
    ("]/protocols/protocol[identifier=" ++ identifier ++ "][name=" ++ identifier ++ "]/" ++ short ++
      "/")

/-- All shortcuts; of several that fit the first one counts. -/
def shortcuts : List Shortcut := [
  protocol "bgp" "BGP",
  protocol "ospf" "OSPF",
  protocol "isis" "ISIS",
  ⟨.keyed "interface[" "]/", .keyed "/interfaces/interface[name=" "]/"⟩,
  ⟨.plain "lldp/", .plain "/lldp/"⟩,
  ⟨.plain "system/", .plain "/system/"⟩,
  ⟨.keyed "network-instance[" "]/", .keyed "/network-instances/network-instance[name=" "]/"⟩]

/-- The text moved from the first of the shapes `source` that it fits to `target`. -/
def reshape? (source target : Shortcut → Shape) (cs : List Char) : Option (List Char) :=
  shortcuts.findSome? fun s => ((source s).fit? cs).map (target s).fill

/-- Whether a text does not start at the root. -/
def isShort (path : String) : Bool := path.toList.head? != some '/'

/-- The canonical text of a short path. A short path without a shortcut starts at the root. -/
def expand (path : String) : String :=
  if isShort path then
    match reshape? Shortcut.short Shortcut.canonical path.toList with
    | some cs => String.ofList cs
    | none => "/" ++ path
  else path

/-- The short form of a canonical text, or the text itself if it has none. -/
def compact (path : String) : String :=
  match reshape? Shortcut.canonical Shortcut.short path.toList with
  | some cs => String.ofList cs
  | none => path

end StateCheck.Path
