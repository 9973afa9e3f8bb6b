import StateCheck.Baseline.Host
import StateCheck.Baseline.Links
import StateCheck.Baseline.Routing
import StateCheck.Baseline.Vxlan
import StateCheck.Table

/-!
Baselines: assertion files that describe the present state of devices.
-/

namespace StateCheck.Baseline

/-- Generators by name. -/
abbrev Catalogue := Table Generator

def builtIn : List Generator :=
  [Bgp.generator, Interfaces.generator, Lldp.generator, Ospf.generator, Host.generator,
    Vxlan.generator]

def Catalogue.standard : Catalogue := Table.ofList (builtIn.map fun g => (g.area.name, g))

def Catalogue.listing (c : Catalogue) : String := Text.joinWith ", " (Text.sorted (Table.names c))

/-- The assertions of generators, in the order of their names. -/
def survey (c : Catalogue) : List String → Survey (List Assertion)
  | [] => pure []
  | name :: names => do
    match Table.get? c name with
    | none =>
      Survey.ofExcept (.error (.ofFailure (.of .generator ("Unknown generator '" ++ name ++ "'")
        [("available", c.listing)])))
    | some g =>
      let first ← g.survey
      let rest ← survey c names
      pure (first ++ rest)

/-- The file about one device. It never holds credentials. -/
def file (c : Catalogue) (names : List String) (host : String) : Survey AssertionFile := do
  let assertions ← survey c names
  pure ⟨[⟨host, .none, assertions⟩]⟩

end StateCheck.Baseline
