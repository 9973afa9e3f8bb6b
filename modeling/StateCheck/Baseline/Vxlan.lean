import StateCheck.Baseline.Survey
import StateCheck.Device.Value

/-!
Assertions about tunnels: their source and the networks that they carry.
-/

namespace StateCheck.Baseline.Vxlan

def area : Area where
  name := "vxlan"
  description := "Generate assertions for VXLAN interface, VTEP, and VNI mappings"
  absentStatuses := Area.standardStatuses
  absentMarks := Area.standardMarks

def interfaceName : String := "Vxlan1"

def path : String := "/interfaces/interface[name=" ++ interfaceName ++ "]"

def start : String := "interfaces/interface[name=" ++ interfaceName ++ "]/arista-vxlan"

/-- The whole number for which a value stands, zero if it stands for none. -/
def numberOf (v : Option Json.Value) : Except Breakdown Int :=
  match v with
  | none => .ok 0
  | some v =>
    match (Device.Payload.ofJson v).toInt with
    | .error .overflow => .error .overflow
    | .error _ => .ok 0
    | .ok i => .ok i

/-- The state under exactly that name. -/
def plainState (entry : Json.Value) : Json.Value :=
  ((entry.get? "state").filter Json.Value.isTruthy).getD (.object [])

def networkOf (entry : Json.Value) : Except Breakdown Int := do
  numberOf (← ask (plainState entry) "vni")

def vlanPair (entry : Json.Value) : Except Breakdown (List (Int × Int)) := do
  let vlan ← numberOf (← ask entry "vlan")
  let vni ← networkOf entry
  return if 0 < vlan ∧ 0 < vni then [(vlan, vni)] else []

def vrfPair (entry : Json.Value) : Except Breakdown (List (String × Int)) := do
  let vrf := setText (← ask entry "vrf")
  let vni ← networkOf entry
  return if vrf ≠ "" ∧ 0 < vni then [(vrf, vni)] else []

def vlanLe (a b : Int × Int) : Bool := a.1 < b.1 || (a.1 == b.1 && a.2 ≤ b.2)

def vrfLe (a b : String × Int) : Bool := a.1 < b.1 || (a.1 == b.1 && a.2 ≤ b.2)

def numberText (i : Int) : String := String.ofList (Text.decimalInt i)

def sourceAssertion (source : String) : List Assertion :=
  if source = "" then []
  else [equality ("VXLAN VTEP source is " ++ source) (start ++ "/state/src-ip-intf") source]

def vlanAssertion (p : Int × Int) : Assertion :=
  equality ("VLAN " ++ numberText p.1 ++ " maps to VNI " ++ numberText p.2)
    (start ++ "/vlan-to-vnis/vlan-to-vni[vlan=" ++ numberText p.1 ++ "]/state/vni")
    (numberText p.2)

def vrfAssertion (p : String × Int) : Assertion :=
  equality ("VRF " ++ p.1 ++ " maps to L3VNI " ++ numberText p.2)
    (start ++ "/vrf-to-vnis/vrf-to-vni[vrf=" ++ p.1 ++ "]/state/vni") (numberText p.2)

/-- The entries of a list under two names, the outer one without a module in front. -/
def mapEntries (vxlan : Json.Value) (outer inner : String) : List Json.Value :=
  (vxlan.get? outer).elim [] (entries · inner)

/-- The assertions about the tunnels of an interface. -/
def tunnelAssertions (vxlan : Json.Value) : Except Breakdown (List Assertion) := do
  let source := setText (← ask (plainState vxlan) "src-ip-intf")
  let vlans ← gather vlanPair (mapEntries vxlan "vlan-to-vnis" "vlan-to-vni")
  let vrfs ← gather vrfPair (mapEntries vxlan "vrf-to-vnis" "vrf-to-vni")
  return sourceAssertion source ++ (vlans.mergeSort vlanLe).map vlanAssertion ++
    (vrfs.mergeSort vrfLe).map vrfAssertion

/-- The interface in a document, which may stand in a list of one. -/
def unwrapped (doc : Json.Value) : Json.Value := (entries doc "interface").headD doc

def generator : Generator where
  area := area
  survey := do
    match ← area.query path with
    | none => pure []
    | some doc =>
      let doc := unwrapped doc
      if isObject doc then
        match member? doc "arista-vxlan" with
        | some (.object members) => Survey.checked (tunnelAssertions (.object members))
        | _ => pure []
      else
        Survey.fail (.of .generator "unexpected VXLAN payload"
          [("type", (Yaml.Value.ofJson doc).typeName)])

end StateCheck.Baseline.Vxlan
