import StateCheck.Baseline.Survey

/-!
Assertions about the neighbors of routing protocols.
-/

namespace StateCheck.Baseline

/-- The path to the protocols of the standard network instance. -/
def protocolPath (identifier rest : String) : String :=
  "/network-instances/network-instance[name=default]/protocols/protocol[identifier=" ++
    identifier ++ "][name=" ++ identifier ++ "]/" ++ rest

namespace Bgp

def area : Area where
  name := "bgp"
  description := "Generate assertions for BGP neighbor states and AFI-SAFI"
  absentStatuses := Area.standardStatuses
  absentMarks := Area.standardMarks

def neighborsPath : String := protocolPath "BGP" "bgp/neighbors"

/-- The name of an address family and whether it is active. A family without a name counts for
nothing. -/
def family (entry : Json.Value) : Except Breakdown (Option (String × Bool)) := do
  let state := stateOf entry
  let own := localName (setText (← ask entry "afi-safi-name"))
  let other := localName (setText (← ask state "afi-safi-name"))
  let name := if own = "" then other else own
  if name = "" then return none
  else
    match ← ask state "active" with
    | some (.bool true) => return some (name, true)
    | _ => return some (name, false)

def familyAssertion (address start : String) (entry : Json.Value) :
    Except Breakdown (List Assertion) := do
  match ← family entry with
  | some (name, true) =>
    return [equality ("BGP peer " ++ address ++ " AFI " ++ name ++ " is active")
      (start ++ "/afi-safis/afi-safi[afi-safi-name=" ++ name ++ "]/state/active") "true"]
  | _ => return []

/-- The assertions about one neighbor: the state of its session and its active address
families. -/
def neighborAssertions (entry : Json.Value) : Except Breakdown (List Assertion) := do
  let state := stateOf entry
  let address ← textWithState entry state "neighbor-address"
  if address = "" then return []
  else
    let session ← askText state "session-state"
    let start := "bgp[default]/neighbors/neighbor[neighbor-address=" ++ address ++ "]"
    let families ← gather (familyAssertion address start)
      ((member? entry "afi-safis").elim [] (entries · "afi-safi"))
    return equality ("BGP peer " ++ address ++ " is " ++ session)
      (start ++ "/state/session-state") session :: families

def assertions (doc : Json.Value) : Except Breakdown (List Assertion) :=
  gather neighborAssertions (entries doc "neighbor")

def generator : Generator where
  area := area
  survey := do
    match ← area.query neighborsPath with
    | none => pure []
    | some doc => Survey.checked (assertions doc)

end Bgp

namespace Ospf

/-- Some devices reject the whole path if the protocol is not in use. -/
def area : Area where
  name := "ospf"
  description := "Generate assertions for OSPF neighbor states"
  absentStatuses := Area.standardStatuses ++ [.invalidArgument]
  absentMarks := Area.standardMarks ++ ["path invalid", "InvalidArgument"]

def areasPath : String := protocolPath "OSPF" "ospf/areas"

def neighborAssertions (areaId interfaceId : String) (entry : Json.Value) :
    Except Breakdown (List Assertion) := do
  let state := stateOf entry
  let adjacency := setText (← ask state "adjacency-state")
  if adjacency = "" then return []
  else
    let neighborId ← textWithState state entry "neighbor-id"
    return [equality ("OSPF neighbor " ++ neighborId ++ " is " ++ adjacency)
      ("ospf[default]/areas/area[identifier=" ++ areaId ++ "]/interfaces/interface[id=" ++
        interfaceId ++ "]/neighbors/neighbor[neighbor-id=" ++ neighborId ++
        "]/state/adjacency-state") adjacency]

def interfaceAssertions (areaId : String) (entry : Json.Value) :
    Except Breakdown (List Assertion) := do
  let interfaceId := setText (← ask entry "id")
  gather (neighborAssertions areaId interfaceId)
    ((member? entry "neighbors").elim [] (entries · "neighbor"))

def areaAssertions (entry : Json.Value) : Except Breakdown (List Assertion) := do
  let areaId := setText (← ask entry "identifier")
  gather (interfaceAssertions areaId)
    ((member? entry "interfaces").elim [] (entries · "interface"))

def assertions (doc : Json.Value) : Except Breakdown (List Assertion) :=
  gather areaAssertions (entries doc "area")

def generator : Generator where
  area := area
  survey := do
    match ← area.query areasPath with
    | none => pure []
    | some doc => Survey.checked (assertions doc)

end Ospf

end StateCheck.Baseline
