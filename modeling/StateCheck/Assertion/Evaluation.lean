import StateCheck.Assertion.Basic
import StateCheck.Number.Reading
import StateCheck.Pattern.Matching
import StateCheck.Pattern.Reading

/-!
The evaluation of an assertion against a value.
-/

namespace StateCheck.Assertion

open Predicate

/-- Whether a number stands to a threshold as a numeric kind asks. -/
def compare (kind : Kind) (actual threshold : Binary64) : Bool :=
  match kind with
  | .above => threshold.lt actual
  | .below => actual.lt threshold
  | .atLeast => threshold.le actual
  | _ => actual.le threshold

def judged (a : Assertion) (value : String) (passed : Bool) : Result :=
  ⟨a, passed, value, none, ""⟩

def refused (a : Assertion) (value message : String) (details : List (String × String)) :
    Result :=
  ⟨a, false, value, some (.ofFailure (.of .predicate message details)), ""⟩

/-- Searches the value for a pattern. -/
def search (a : Assertion) (pattern value : String) : Except Breakdown Result :=
  match Pattern.read pattern.toList with
  | .ok node => .ok (a.judged value (node.occursIn value.toList))
  | .error .invalid => .ok (a.refused value "invalid regex: <regex error>" [("pattern", pattern)])
  | .error .conflictingFlags => .error .unreadable
  | .error .tooLarge => .error .overflow

def weigh (a : Assertion) (kind : Kind) (operand value : String) : Result :=
  match Numeral.readFloat? value.toList with
  | none => a.refused value "value is not numeric" [("value", value)]
  | some actual =>
    match Numeral.readFloat? operand.toList with
    | none => a.refused value "threshold is not numeric" [("threshold", operand)]
    | some threshold => a.judged value (compare kind actual threshold)

/-- Applies an active predicate to the value of an existing path. -/
def apply (a : Assertion) (p : Predicate) (value : String) : Except Breakdown Result :=
  let operand := p.operand.toText
  match p.kind with
  | .equals => .ok (a.judged value (value == operand))
  | .contains => .ok (a.judged value (Text.occursIn operand.toList value.toList))
  | .fits => a.search operand value
  | kind => .ok (a.weigh kind operand value)

/-- The predicate, unless it is switched off. -/
def active? (a : Assertion) : Option Predicate := a.predicate.filter Predicate.isActive

/-- The result of an assertion for the value at its path, or for a path that does not exist.
Whether the path exists comes before all other questions. -/
def evaluate (a : Assertion) (value : String) (found : Bool) : Except Breakdown Result :=
  match a.active? with
  | some ⟨.present, _⟩ => .ok (a.judged value found)
  | some ⟨.absent, _⟩ => .ok (a.judged value (!found))
  | active =>
    if found then
      match active with
      | some p => a.apply p value
      | none => .ok (a.refused value "no assertion type specified" [])
    else .ok (a.refused value "path does not exist" [])

end StateCheck.Assertion
