import StateCheck.Number.Binary64

/-!
JSON values. Members keep their order, and whole numbers differ from floating ones.
-/

namespace StateCheck.Json

inductive Value
  | null
  | bool (b : Bool)
  | int (i : Int)
  | float (x : Binary64)
  | string (s : String)
  | array (items : List Value)
  | object (members : List (String × Value))

namespace Value

/-- The members with `k` bound to `v`; a known key keeps its place. -/
def put {α : Type} (k : String) (v : α) : List (String × α) → List (String × α)
  | [] => [(k, v)]
  | (k', v') :: ms => if k' = k then (k, v) :: ms else (k', v') :: put k v ms

/-- The members in order of first appearance, each with its last value. -/
def ofMembers {α : Type} (ms : List (String × α)) : List (String × α) :=
  ms.foldl (fun acc m => put m.1 m.2 acc) []

/-- Whether the value counts as set: neither null, false, zero nor empty. -/
def isTruthy : Value → Bool
  | null => false
  | bool b => b
  | int i => i ≠ 0
  | float x => x.isTruthy
  | string s => s ≠ ""
  | array items => !items.isEmpty
  | object members => !members.isEmpty

/-- The member `k` of an object. -/
def get? (v : Value) (k : String) : Option Value :=
  match v with
  | object members => members.lookup k
  | _ => none

def isObject : Value → Bool
  | object _ => true
  | _ => false

end Value

end StateCheck.Json
