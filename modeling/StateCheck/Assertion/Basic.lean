import StateCheck.Credentials
import StateCheck.Failure
import StateCheck.Json.Value

/-!
Assertions about the state of devices, the files that gather them, and the results of evaluating
them.
-/

namespace StateCheck

namespace Predicate

/-- What a predicate asks of a value. -/
inductive Kind
  | equals | contains | fits | present | absent | above | below | atLeast | atMost
deriving DecidableEq

namespace Kind

/-- All kinds, in the order in which they are listed. -/
def all : List Kind :=
  [equals, contains, fits, present, absent, above, below, atLeast, atMost]

/-- The key that stands for a kind in files. -/
def key : Kind → String
  | equals => "equals"
  | contains => "contains"
  | fits => "matches"
  | present => "exists"
  | absent => "absent"
  | above => "gt"
  | below => "lt"
  | atLeast => "gte"
  | atMost => "lte"

def ofKey? (s : String) : Option Kind := all.find? fun k => k.key == s

/-- Kinds that ask whether the path exists and can be switched off. -/
def isFlag : Kind → Bool
  | present | absent => true
  | _ => false

/-- Kinds that compare with a threshold. -/
def isNumeric : Kind → Bool
  | above | below | atLeast | atMost => true
  | _ => false

end Kind

/-- What a value is compared with. -/
inductive Operand
  | text (s : String)
  | flag (b : Bool)
deriving DecidableEq

namespace Operand

def toText : Operand → String
  | text s => s
  | flag b => if b then "True" else "False"

/-- Whether the operand switches a kind on that can be switched off. -/
def isOn : Operand → Bool
  | text s => s ≠ ""
  | flag b => b

end Operand

end Predicate

structure Predicate where
  kind : Predicate.Kind
  operand : Predicate.Operand
deriving DecidableEq

/-- Whether the predicate takes part in the evaluation. -/
def Predicate.isActive (p : Predicate) : Bool := !p.kind.isFlag || p.operand.isOn

/-- An assertion about the value at one path. -/
structure Assertion where
  path : String
  predicate : Option Predicate
  name : String
  description : String
deriving DecidableEq

namespace Assertion

def displayName (a : Assertion) : String := if a.name = "" then a.path else a.name

/-- The value that an assertion of equality expects. -/
def expected (a : Assertion) : String :=
  match a.predicate with
  | some ⟨.equals, operand⟩ => operand.toText
  | _ => ""

end Assertion

/-- A device, or a group of devices, with the assertions to evaluate on it. -/
structure Target where
  host : String
  credentials : Credentials
  assertions : List Assertion
deriving DecidableEq

/-- Whether the host stands for a group of the inventory. -/
def Target.isGroup (t : Target) : Bool := t.host.toList.head? == some '@'

structure AssertionFile where
  targets : List Target
deriving DecidableEq

def AssertionFile.size (f : AssertionFile) : Nat :=
  f.targets.foldr (fun t size => t.assertions.length + size) 0

inductive Verdict
  | pass | fail | error
deriving DecidableEq

def Verdict.name : Verdict → String
  | pass => "pass"
  | fail => "fail"
  | error => "error"

/-- The outcome of evaluating an assertion; with an error it does not matter whether it passed. -/
structure Result where
  assertion : Assertion
  passed : Bool
  actual : String
  error : Option Fault
  target : String

namespace Result

def verdict (r : Result) : Verdict :=
  if r.error.isSome then .error else if r.passed then .pass else .fail

/-- The members of a result in reports. -/
def members (r : Result) : List (String × Json.Value) :=
  let optional (key text : String) : List (String × Json.Value) :=
    if text = "" then [] else [(key, .string text)]
  [("target", .string r.target), ("name", .string r.assertion.displayName),
    ("path", .string r.assertion.path), ("status", .string r.verdict.name)] ++
    optional "actual" r.actual ++ optional "expected" r.assertion.expected ++
    (r.error.map fun e => ("error", .string e.text)).toList

end Result

end StateCheck
