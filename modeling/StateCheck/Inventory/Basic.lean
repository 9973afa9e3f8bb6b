import StateCheck.Assertion.Basic
import StateCheck.Noted
import StateCheck.Table
import StateCheck.Text.Digit

/-!
Inventories: named groups of devices, groups that refer to groups, and the targets of an
assertion file for which a group stands.
-/

namespace StateCheck

structure Inventory.Defaults where
  credentials : Credentials
  /-- The port for addresses without one, zero if there is none. -/
  port : Int

structure Inventory where
  groups : Table (List String)
  defaults : Inventory.Defaults
  /-- The file that the inventory comes from. -/
  source : Option String

namespace Inventory

/-- The address with the port for addresses that have none. -/
def Defaults.address (d : Defaults) (host : String) : String :=
  if d.port = 0 ∨ host.toList.contains ':' then host
  else host ++ ":" ++ String.ofList (Text.decimalInt d.port)

/-! ### References between groups -/

/-- The name of the group that a member refers to. -/
def reference? (member : String) : Option String :=
  match member.toList with
  | '@' :: name => some (String.ofList name)
  | _ => none

/-- The members of the group that a member refers to, if there is one. -/
def referred? (groups : Table (List String)) (member : String) : Option (List String) :=
  (reference? member).bind groups.get?

/-- The group with every reference replaced by the members that the group referred to has now. -/
def expandGroup (groups : Table (List String)) (name : String) : Table (List String) :=
  let members := (groups.get? name).getD []
  groups.put name (members.flatMap fun m => (referred? groups m).getD [m])

/-- One pass over all groups. A group sees what the pass made of the groups before it. -/
def expandPass (groups : Table (List String)) : Table (List String) :=
  groups.names.foldl expandGroup groups

def hasReferences (groups : Table (List String)) : Bool :=
  groups.entries.any fun g => g.2.any fun m => (referred? groups m).isSome

/-- Passes over the groups until no references are left, at most `limit` many; and whether that
was seen before the limit was reached. -/
def expandWithin : (limit : Nat) → Table (List String) → Table (List String) × Bool
  | 0, groups => (groups, false)
  | limit + 1, groups =>
    if hasReferences groups then expandWithin limit (expandPass groups) else (groups, true)

def passLimit : Nat := 10

/-- The groups without references. References to groups that do not exist stay. -/
def flatGroups (groups : Table (List String)) : Noted (Table (List String)) := do
  let (groups, settled) := expandWithin passLimit groups
  if !settled then
    Noted.note ("Group references still unresolved after " ++ toString passLimit ++
      " passes; check for cycles")
  pure groups

def expandReferences (i : Inventory) : Noted Inventory := do
  let groups ← flatGroups i.groups
  pure { i with groups }

/-! ### Targets -/

/-- The targets for which a target stands: one for each member of its group. -/
def expandTarget (i : Inventory) (t : Target) : Noted (List Target) := do
  match reference? t.host with
  | none => pure [t]
  | some group =>
    match i.groups.get? group with
    | none =>
      Noted.note ("Group '" ++ group ++ "' not found in inventory; keeping target as-is")
      pure [t]
    | some members => pure (members.map fun m => { t with host := i.defaults.address m })

def expandTargets (i : Inventory) : List Target → Noted (List Target)
  | [] => pure []
  | t :: ts => do
    let first ← i.expandTarget t
    let rest ← i.expandTargets ts
    pure (first ++ rest)

/-- The targets whose hosts are members of a group. -/
def restrict (i : Inventory) (group : String) (ts : List Target) : Noted (List Target) := do
  match i.groups.get? group with
  | none =>
    Noted.note ("Filter group '" ++ group ++ "' not found in inventory; not filtering")
    pure ts
  | some members =>
    let allowed := members.map i.defaults.address
    pure (ts.filter fun t => allowed.contains t.host)

/-- The assertion file with groups replaced by their members, restricted to the members of a
group if one is given. -/
def expandFile (i : Inventory) (f : AssertionFile) (group : String) : Noted AssertionFile := do
  let ts ← i.expandTargets f.targets
  let ts ← if group = "" then pure ts else i.restrict group ts
  pure ⟨ts⟩

end Inventory

end StateCheck
