/-!
Regular expressions: tests on single characters, anchors, groups, repetition, references back to
groups, and looking around.
-/

namespace StateCheck.Pattern

/-- What holds in a part of an expression. -/
structure Flags where
  ignoreCase : Bool
  multiline : Bool
  dotAll : Bool
  verbose : Bool
  /-- Classes and cases are those of ASCII. -/
  ascii : Bool

def Flags.none : Flags := ⟨false, false, false, false, false⟩

inductive Class
  | digit | space | word
deriving DecidableEq

/-- A part of a set of characters; characters are code points. -/
inductive Member
  | code (n : Nat)
  | range (low high : Nat)
  | kind (c : Class) (negated : Bool)
deriving DecidableEq

inductive Test
  | any
  | set (negated : Bool) (members : List Member)
deriving DecidableEq

inductive Anchor
  | lineStart | lineEnd | start | finish | boundary | noBoundary
deriving DecidableEq

/-- How a repetition gives way: by fewer rounds, by more, or not at all. -/
inductive Mode
  | greedy | reluctant | possessive
deriving DecidableEq

inductive Node
  | one (flags : Flags) (test : Test)
  | anchor (flags : Flags) (a : Anchor)
  /-- A group, with its number if what it matches is kept. -/
  | group (number : Option Nat) (body : Node)
  | sequence (parts : List Node)
  | choice (branches : List Node)
  /-- At least `least` rounds, and at most `most` if there is a limit. -/
  | rounds (mode : Mode) (least : Nat) (most : Option Nat) (body : Node)
  /-- The text that a group matched. -/
  | reference (flags : Flags) (number : Nat)
  /-- What follows, or the `behind` characters before, match `body` or do not. -/
  | look (behind : Option Nat) (negated : Bool) (body : Node)
  /-- One of two parts, depending on whether a group matched. -/
  | ifMatched (number : Nat) (yes no : Node)
  | atomic (body : Node)

mutual

/-- Whether anything in it is repeated. -/
def Node.repeats : Node → Bool
  | .one .. | .anchor .. | .reference .. => false
  | .group _ body | .look _ _ body | .atomic body => body.repeats
  | .sequence parts | .choice parts => anyRepeats parts
  | .rounds .. => true
  | .ifMatched _ yes no => yes.repeats || no.repeats

def anyRepeats : List Node → Bool
  | [] => false
  | n :: ns => n.repeats || anyRepeats ns

end

/-- The least and the greatest number of characters that an expression matches. -/
abbrev Width := Nat × Option Nat

namespace Width

def add (a b : Width) : Width := (a.1 + b.1, do some ((← a.2) + (← b.2)))

def either (a b : Width) : Width := (min a.1 b.1, do some (max (← a.2) (← b.2)))

def times (least : Nat) (most : Option Nat) (a : Width) : Width :=
  (a.1 * least,
    match most, a.2 with
    | _, some 0 => some 0
    | some n, some w => some (w * n)
    | some 0, none => some 0
    | _, _ => none)

end Width

mutual

/-- The width of a node, given those of the groups before it. -/
def Node.width (groups : List (Nat × Width)) : Node → Width
  | .one .. => (1, some 1)
  | .anchor .. | .look .. => (0, some 0)
  | .group _ body | .atomic body => body.width groups
  | .sequence parts => sequenceWidth groups parts
  | .choice branches => choiceWidth groups branches
  | .rounds _ least most body => (body.width groups).times least most
  | .reference _ n => (groups.lookup n).getD (0, some 0)
  | .ifMatched _ yes no => (yes.width groups).either (no.width groups)

def sequenceWidth (groups : List (Nat × Width)) : List Node → Width
  | [] => (0, some 0)
  | n :: ns => (n.width groups).add (sequenceWidth groups ns)

def choiceWidth (groups : List (Nat × Width)) : List Node → Width
  | [] => (0, some 0)
  | [n] => n.width groups
  | n :: ns => (n.width groups).either (choiceWidth groups ns)

end

end StateCheck.Pattern
