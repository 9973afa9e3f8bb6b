import StateCheck.Number.Reading
import StateCheck.Yaml.Node
import StateCheck.Yaml.Value

/-!
A reader of YAML texts, with which the program is run.
-/

namespace StateCheck.Yaml

open StateCheck.Text

def unreadable {α : Type} : Result α := .error (.breakdown .unreadable)

namespace Value

def readBool (cs : List Char) : Result Value :=
  match String.ofList (cs.map Char.toLower) with
  | "yes" | "true" | "on" => .ok (bool true)
  | "no" | "false" | "off" => .ok (bool false)
  | _ => .error (.breakdown .noMember)

/-- The letters that mark the digits of a base. -/
def marks (base : Nat) : List Char :=
  if base = 2 then ['b', 'B'] else if base = 8 then ['o', 'O'] else ['x', 'X']

/-- Past a zero with the mark of a base. -/
def dropMark (base : Nat) : List Char → List Char
  | '0' :: c :: cs => if (marks base).contains c then cs else '0' :: c :: cs
  | cs => cs

/-- The number whose digits in `base` are given, with blanks around it, a sign, and the mark of the
base. -/
def readBase (base : Nat) (cs : List Char) : Result Int := do
  let (negative, cs) := Numeral.takeSign (trimWhile Numeral.isMargin cs)
  let values ← match (dropMark base cs).mapM fun c => (hexValue? c).or (digitValue? c) with
    | some (v :: vs) => .ok (v :: vs)
    | _ => unreadable
  if values.all (· < base) then
    let n : Int := Numeral.ofDigits base values
    .ok (if negative then -n else n)
  else unreadable

def readWhole (cs : List Char) : Result Int :=
  match Numeral.readInt? cs with
  | some i => .ok i
  | none => unreadable

def sixties (parts : List Int) : Int := parts.foldl (fun n p => n * 60 + p) 0

def readInt (cs : List Char) : Result Value := do
  match cs.filter (· ≠ '_') with
  | [] => .error (.breakdown .noPlace)
  | first :: rest =>
    let negative := first = '-'
    let body := if negative || first = '+' then rest else first :: rest
    let n ← match body with
      | [] => .error (.breakdown .noPlace)
      | ['0'] => .ok 0
      | '0' :: 'b' :: ds => readBase 2 ds
      | '0' :: 'x' :: ds => readBase 16 ds
      | '0' :: ds => readBase 8 ('0' :: ds)
      | ds =>
        if ds.contains ':' then do
          let parts ← (splitWhere (· = ':') ds).mapM readWhole
          .ok (sixties parts)
        else readWhole ds
    .ok (int (if negative then -n else n))

def readNumber (cs : List Char) : Result Binary64 :=
  match Numeral.readFloat? cs with
  | some x => .ok x
  | none => unreadable

/-- A number in base sixty, summed up from its last place. -/
def sixtiesFloat (parts : List Binary64) : Binary64 :=
  (parts.reverse.foldl (fun (sum, base) p => (sum.add (p.mul base), base.mul (.ofNat 60)))
    (.zero, Binary64.ofNat 1)).1

def readFloat (cs : List Char) : Result Value := do
  match (cs.filter (· ≠ '_')).map Char.toLower with
  | [] => .error (.breakdown .noPlace)
  | first :: rest =>
    let negative := first = '-'
    let body := if negative || first = '+' then rest else first :: rest
    let x ←
      if body = ".inf".toList then .ok (.infinite false)
      else if body = ".nan".toList then .ok .nan
      else if body.contains ':' then do
        let parts ← (splitWhere (· = ':') body).mapM readNumber
        .ok (sixtiesFloat parts)
      else readNumber body
    .ok (float (if negative then x.neg else x))

/-! ### Dates -/

def isLeap (year : Nat) : Bool := year % 4 = 0 && (year % 100 ≠ 0 || year % 400 = 0)

def daysIn (year month : Nat) : Nat :=
  if month = 2 then if isLeap year then 29 else 28
  else if month = 4 ∨ month = 6 ∨ month = 9 ∨ month = 11 then 30
  else 31

def number (cs : List Char) : Nat := cs.foldl (fun n d => n * 10 + (d.toNat - 48)) 0

def dateOf (s : Tag.Stamp) : Result Date :=
  let year := number s.year
  let month := number s.month
  let day := number s.day
  if 1 ≤ year ∧ 1 ≤ month ∧ month ≤ 12 ∧ 1 ≤ day ∧ day ≤ daysIn year month then
    .ok ⟨year, month, day⟩
  else unreadable

/-- A zone is less than a day ahead or behind. -/
def zoneOf : Option (Option Bool × List Char × List Char) → Result (Option Int)
  | none => .ok none
  | some (none, _, _) => .ok (some 0)
  | some (some negative, hours, minutes) =>
    let n := number hours * 60 + number minutes
    if n < 1440 then .ok (some (if negative then -n else n)) else unreadable

def readTimestamp (cs : List Char) : Result Value := do
  match Tag.stamp? cs with
  | none => .error (.breakdown .notMapping)
  | some s =>
    match s.time with
    | none => do
      let d ← dateOf s
      .ok (date d)
    | some (hour, minute, second) => do
      let zone ← zoneOf s.zone
      let d ← dateOf s
      let micros := number (s.fraction.take 6 ++ List.replicate (6 - s.fraction.length) '0')
      if number hour < 24 ∧ number minute < 60 ∧ number second < 60 then
        .ok (moment d ⟨number hour, number minute, number second, micros, zone⟩)
      else unreadable

/-! ### Bytes -/

def sextet? (c : Char) : Option Nat :=
  let n := c.toNat
  if 65 ≤ n && n ≤ 90 then some (n - 65)
  else if 97 ≤ n && n ≤ 122 then some (n - 71)
  else if 48 ≤ n && n ≤ 57 then some (n + 4)
  else if c = '+' then some 62
  else if c = '/' then some 63
  else none

/-- Bytes in groups of four characters; other characters are passed over, and padding ends the
last group. `held` are the bits of the `count` characters of the group so far. -/
def readBase64 : (count held pads : Nat) → List Char → Result (List UInt8)
  | count, _, _, [] => if count = 0 then .ok [] else malformed
  | count, held, pads, c :: cs =>
    if c = '=' then
      if 2 ≤ count && 4 ≤ count + (pads + 1) then .ok []
      else readBase64 count held (if 2 ≤ count then pads + 1 else pads) cs
    else match sextet? c with
      | none => readBase64 count held pads cs
      | some v => do
        let held := held * 64 + v
        match count with
        | 0 => readBase64 1 v 0 cs
        | 1 => do
          let bs ← readBase64 2 (held % 16) 0 cs
          .ok (UInt8.ofNat (held / 16) :: bs)
        | 2 => do
          let bs ← readBase64 3 (held % 4) 0 cs
          .ok (UInt8.ofNat (held / 4) :: bs)
        | _ => do
          let bs ← readBase64 0 0 0 cs
          .ok (UInt8.ofNat held :: bs)

def readBytes (cs : List Char) : Result Value :=
  if cs.all (·.toNat < 128) then (readBase64 0 0 0 cs).map bytes else malformed

def readScalar (tag : Tag) (cs : List Char) : Result Value :=
  match tag with
  | .null => .ok null
  | .bool => readBool cs
  | .int => readInt cs
  | .float => readFloat cs
  | .binary => readBytes cs
  | .timestamp => readTimestamp cs
  | .string => .ok (string (String.ofList cs))
  | _ => malformed

/-- The text of a node that should be a scalar: a mapping may name it by the key `=`. -/
def scalarText : (fuel : Nat) → Node → Result (List Char)
  | 0, _ => malformed
  | _ + 1, .scalar _ cs => .ok cs
  | fuel + 1, .mapping _ pairs =>
    match pairs.find? fun p => match p.1 with
      | .scalar .value _ => true
      | _ => false with
    | some (_, v) => scalarText fuel v
    | none => malformed
  | _, _ => malformed

/-! ### Mappings -/

def isMergeKey : Node → Bool
  | .scalar .merge _ => true
  | _ => false

/-- The key `=` is a string in a mapping that is not a scalar. -/
def plainKey : Node → Node
  | .scalar .value cs => .scalar .string cs
  | k => k

/-- Every part of a list, or the first fault among them. -/
def all {α : Type} : List (Result α) → Result (List α)
  | [] => .ok []
  | r :: rs => do
    let a ← r
    let as ← all rs
    .ok (a :: as)

/-- The pairs of a mapping: those merged into it come first, so that its own win. A merge key
brings in a mapping, or several, of which an earlier one wins. -/
def flatPairs : (depth : Nat) → List (Node × Node) → Result (List (Node × Node))
  | 0, _ => malformed
  | depth + 1, pairs => do
    let source : Node → Result (List (Node × Node))
      | .mapping _ pairs => flatPairs depth pairs
      | _ => malformed
    let sources ← all <| (pairs.filter (isMergeKey ·.1)).map fun p =>
      match p.2 with
      | .sequence _ items => (all (items.map source)).map (·.reverse.flatten)
      | n => source n
    let own := (pairs.filter fun p => !isMergeKey p.1).map fun p => (plainKey p.1, p.2)
    .ok (sources.flatten ++ own)

/-- A value, or a fault with the depth of the node at which it arose: nodes are read level by
level, so that of several faults the least deep one counts. -/
abbrev Leveled (α : Type) := Except (Nat × Fault) α

def both {α β : Type} (a : Leveled α) (b : Leveled β) : Leveled (α × β) :=
  match a, b with
  | .ok x, .ok y => .ok (x, y)
  | .error e, .ok _ => .error e
  | .ok _, .error e => .error e
  | .error e, .error f => if f.1 < e.1 then .error f else .error e

def gather {α : Type} : List (Leveled α) → Leveled (List α)
  | [] => .ok []
  | r :: rs => (both r (gather rs)).map fun (a, as) => a :: as

def atLevel {α : Type} (level : Nat) : Result α → Leveled α
  | .ok a => .ok a
  | .error e => .error (level, e)

/-- Whether a node stands for a scalar; only such a node can be a key. -/
def isScalar : Node → Bool
  | .scalar .. => true
  | .mapping tag _ => [Tag.null, .bool, .int, .float, .binary, .timestamp, .string].contains tag
  | _ => false

/-- The value of a node that stands `level` deep. -/
def ofNode : (depth : Nat) → (level : Nat) → Node → Leveled Value
  | 0, level, _ => .error (level, .malformed)
  | _ + 1, _, .enclosing isMapping => .ok (enclosing isMapping)
  | _ + 1, level, .scalar tag cs => atLevel level (readScalar tag cs)
  | depth + 1, level, .sequence tag items =>
    let value := ofNode depth (level + 1)
    match tag with
    | .sequence => (gather (items.map value)).map list
    | .omap | .pairs =>
      let entry : Node → Leveled Value
        | .mapping _ [(k, v)] => (both (value k) (value v)).map fun (k, v) => pair k v
        | _ => .error (level + 1, .malformed)
      (gather (items.map entry)).map list
    | _ => .error (level, .malformed)
  | depth + 1, level, .mapping tag pairs =>
    let value := ofNode depth (level + 1)
    let key (k : Node) : Leveled Value :=
      if isScalar k then value k else .error (level + 1, .malformed)
    let members : Leveled (List (Value × Value)) := do
      let flat ← atLevel (level + 1) (flatPairs (depth + 1) pairs)
      let read ← gather (flat.map fun p => both (key p.1) (value p.2))
      .ok (read.foldl (fun ms p => put p.1 p.2 ms) [])
    match tag with
    | .mapping => members.map mapping
    | .set => members.map fun ms => set (ms.map (·.1))
    | tag =>
      if isScalar (.mapping tag pairs) then
        atLevel level ((scalarText (depth + 1) (.mapping tag pairs)).bind fun cs =>
          if tag = .timestamp then .error (.breakdown .wrongType) else readScalar tag cs)
      else .error (level, .malformed)

end Value

/-- The value of a text; an empty text is null. What a value inside itself holds is not followed. -/
def load (cs : List Char) : Result Value := do
  match ← Node.read cs with
  | none => .ok .null
  | some n =>
    match Value.ofNode (cs.length + 2) 0 n with
    | .ok v => .ok v
    | .error (_, e) => .error e

end StateCheck.Yaml
