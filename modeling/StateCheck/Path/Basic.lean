import StateCheck.Table

/-!
Paths through a tree of device state: names, with keys where a name stands for a list of entries.
-/

namespace StateCheck

/-- The keys that select an entry of a list. -/
abbrev Keys := Table String

namespace Keys

/-- Keys are the same if they bind the same values, in whatever order. -/
def Same (a b : Keys) : Prop := a.entries.Perm b.entries

instance (a b : Keys) : Decidable (Same a b) :=
  inferInstanceAs (Decidable (a.entries.Perm b.entries))

end Keys

namespace Path

/-- One step of a path. -/
structure Element where
  name : String
  keys : Keys

namespace Element

def groupText (p : String × String) : List Char :=
  '[' :: (p.1.toList ++ '=' :: p.2.toList ++ [']'])

def chars (e : Element) : List Char := e.name.toList ++ e.keys.entries.flatMap groupText

/-- The name, followed by every key and its value in brackets. -/
def text (e : Element) : String := String.ofList e.chars

def Same (a b : Element) : Prop := a.name = b.name ∧ a.keys.Same b.keys

instance (a b : Element) : Decidable (Same a b) :=
  inferInstanceAs (Decidable (a.name = b.name ∧ a.keys.Same b.keys))

end Element

end Path

/-- A path from the root down. -/
structure Path where
  elements : List Path.Element

namespace Path

def joinSegments : List (List Char) → List Char
  | [] => []
  | [s] => s
  | s :: ss => s ++ '/' :: joinSegments ss

def chars (p : Path) : List Char := '/' :: joinSegments (p.elements.map Element.chars)

/-- The canonical text: the elements set apart by slashes, with a slash in front. -/
def text (p : Path) : String := String.ofList p.chars

def length (p : Path) : Nat := p.elements.length

/-- Whether two lists of elements agree place by place, the order of keys aside. -/
def SameElements : List Element → List Element → Prop
  | [], [] => True
  | a :: as, b :: bs => a.Same b ∧ SameElements as bs
  | _, _ => False

def decideSame : (as bs : List Element) → Decidable (SameElements as bs)
  | [], [] => inferInstanceAs (Decidable True)
  | a :: as, b :: bs =>
    have := decideSame as bs
    inferInstanceAs (Decidable (a.Same b ∧ SameElements as bs))
  | [], _ :: _ | _ :: _, [] => inferInstanceAs (Decidable False)

instance (as bs : List Element) : Decidable (SameElements as bs) := decideSame as bs

/-- Paths are the same if their elements are, whatever the order of their keys. -/
def Same (p q : Path) : Prop := SameElements p.elements q.elements

instance (p q : Path) : Decidable (p.Same q) :=
  inferInstanceAs (Decidable (SameElements p.elements q.elements))

def pairLe (p q : String × String) : Bool := p.1 < q.1 || (p.1 == q.1 && (p.2 < q.2 || p.2 == q.2))

/-- What a hash of a path is taken of: every name with its keys in a fixed order. -/
def signature (p : Path) : List (String × List (String × String)) :=
  p.elements.map fun e => (e.name, e.keys.entries.mergeSort pairLe)

end Path

end StateCheck
