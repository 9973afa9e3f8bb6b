import StateCheck.Breakdown
import StateCheck.Json.Value
import StateCheck.Number.Decimal
import StateCheck.Number.Reading
import StateCheck.Text.Quoted
import StateCheck.Text.Blank

/-!
The values of YAML documents and their texts.
-/

namespace StateCheck.Yaml

structure Date where
  year : Nat
  month : Nat
  day : Nat
deriving DecidableEq

/-- A time of day, with the minutes by which its zone is ahead of the world's. -/
structure Time where
  hour : Nat
  minute : Nat
  second : Nat
  micros : Nat
  zone : Option Int
deriving DecidableEq

inductive Value
  | null
  | bool (b : Bool)
  | int (i : Int)
  | float (x : Binary64)
  | string (s : String)
  | bytes (bs : List UInt8)
  | date (d : Date)
  | moment (d : Date) (t : Time)
  | list (items : List Value)
  | pair (first second : Value)
  | mapping (members : List (Value × Value))
  | set (items : List Value)
  /-- A list or mapping inside itself. -/
  | enclosing (isMapping : Bool)

namespace Value

/-- Whether the value counts as set: neither null, false, zero nor empty. -/
def isTruthy : Value → Bool
  | null => false
  | bool b => b
  | int i => i ≠ 0
  | float x => x.isTruthy
  | string s => s ≠ ""
  | bytes bs => !bs.isEmpty
  | list items => !items.isEmpty
  | mapping members => !members.isEmpty
  | set items => !items.isEmpty
  | date _ | moment .. | pair .. | enclosing _ => true

/-- Numbers and truth values that are equal are one key. -/
def number? : Value → Option Binary64
  | bool b => some (.ofNat b.toNat)
  | int i => some (.ofInt i)
  | float x => some x
  | _ => none

def wholeNumber? : Value → Option Int
  | bool b => some b.toNat
  | int i => some i
  | _ => none

/-- Whether two values are the same key of a mapping. -/
def sameKey : Value → Value → Bool
  | null, null => true
  | string s, string t => s == t
  | bytes a, bytes b => a == b
  | date d, date e => d == e
  | moment d t, moment e u => d == e && t == u
  | a, b =>
    match a.wholeNumber?, b.wholeNumber? with
    | some i, some j => i == j
    | _, _ =>
      match a.number?, b.number? with
      | some x, some y => x.eq y
      | _, _ => false

/-- The members with `k` bound to `v`; a known key keeps its place and its spelling. -/
def put (k v : Value) : List (Value × Value) → List (Value × Value)
  | [] => [(k, v)]
  | (k', v') :: ms => if k'.sameKey k then (k', v) :: ms else (k', v') :: put k v ms

def lookup (name : String) : List (Value × Value) → Option Value
  | [] => none
  | (string s, v) :: ms => if s = name then some v else lookup name ms
  | _ :: ms => lookup name ms

/-- The member `name` of a mapping. -/
def get? (v : Value) (name : String) : Option Value :=
  match v with
  | mapping members => lookup name members
  | _ => none

/-- The name of the type of the value, as messages show it. -/
def typeName : Value → String
  | null => "NoneType"
  | bool _ => "bool"
  | int _ => "int"
  | float _ => "float"
  | string _ => "str"
  | bytes _ => "bytes"
  | date _ => "date"
  | moment .. => "datetime"
  | list _ | enclosing false => "list"
  | pair .. => "tuple"
  | mapping _ | enclosing true => "dict"
  | set _ => "set"

/-! ### Texts -/

open StateCheck.Text

def commaSeparated : List (List Char) → List Char
  | [] => []
  | [x] => x
  | x :: xs => x ++ ',' :: ' ' :: commaSeparated xs

def dateText (d : Date) : List Char :=
  padded 4 d.year ++ '-' :: padded 2 d.month ++ '-' :: padded 2 d.day

def zoneText : Option Int → List Char
  | none => []
  | some minutes =>
    (if minutes < 0 then '-' else '+') :: padded 2 (minutes.natAbs / 60) ++
      ':' :: padded 2 (minutes.natAbs % 60)

def timeText (t : Time) : List Char :=
  padded 2 t.hour ++ ':' :: padded 2 t.minute ++ ':' :: padded 2 t.second ++
    (if t.micros = 0 then [] else '.' :: padded 6 t.micros) ++ zoneText t.zone

def call (name : String) (arguments : List (List Char)) : List Char :=
  name.toList ++ '(' :: commaSeparated arguments ++ [')']

def quotedZone : Option Int → List (List Char)
  | none => []
  | some 0 => ["tzinfo=datetime.timezone.utc".toList]
  | some minutes =>
    let days := minutes / 1440
    let seconds := (minutes % 1440) * 60
    let delta := call "datetime.timedelta"
      ((if days = 0 then [] else ["days=".toList ++ decimalInt days]) ++
        (if seconds = 0 then [] else ["seconds=".toList ++ decimalInt seconds]))
    ["tzinfo=".toList ++ call "datetime.timezone" [delta]]

def dateParts (d : Date) : List (List Char) := [decimal d.year, decimal d.month, decimal d.day]

def quotedMoment (d : Date) (t : Time) : List Char :=
  let seconds :=
    if t.micros ≠ 0 then [decimal t.second, decimal t.micros]
    else if t.second ≠ 0 then [decimal t.second] else []
  call "datetime.datetime"
    (dateParts d ++ [decimal t.hour, decimal t.minute] ++ seconds ++ quotedZone t.zone)

mutual

/-- The text of a value inside another: strings are quoted. -/
def quoted : Value → List Char
  | null => "None".toList
  | bool b => (if b then "True" else "False").toList
  | int i => decimalInt i
  | float x => Decimal.text x
  | string s => Text.quoted s.toList
  | bytes bs => quotedBytes bs
  | date d => call "datetime.date" (dateParts d)
  | moment d t => quotedMoment d t
  | list items => '[' :: commaSeparated (quotedItems items) ++ [']']
  | pair a b => '(' :: commaSeparated [quoted a, quoted b] ++ [')']
  | mapping members => '\x7b' :: commaSeparated (quotedMembers members) ++ ['\x7d']
  | set [] => "set()".toList
  | set items => '\x7b' :: commaSeparated (quotedItems items) ++ ['\x7d']
  | enclosing false => "[...]".toList
  | enclosing true => '\x7b' :: "...".toList ++ ['\x7d']

def quotedItems : List Value → List (List Char)
  | [] => []
  | v :: vs => quoted v :: quotedItems vs

def quotedMembers : List (Value × Value) → List (List Char)
  | [] => []
  | (k, v) :: ms => (quoted k ++ ':' :: ' ' :: quoted v) :: quotedMembers ms

end

/-- The text of a value: a string stands for itself. -/
def text : Value → String
  | string s => s
  | date d => String.ofList (dateText d)
  | moment d t => String.ofList (dateText d ++ ' ' :: timeText t)
  | v => String.ofList v.quoted

mutual

/-- Whether no whole number in the value has too many digits for a text. -/
def isWritable : Value → Bool
  | int i => decide (i.natAbs < tenTo Numeral.digitLimit)
  | list items | set items => areWritable items
  | pair a b => a.isWritable && b.isWritable
  | mapping members => membersWritable members
  | _ => true

def areWritable : List Value → Bool
  | [] => true
  | v :: vs => v.isWritable && areWritable vs

def membersWritable : List (Value × Value) → Bool
  | [] => true
  | (k, v) :: ms => k.isWritable && v.isWritable && membersWritable ms

end

/-- The text of a value that can be written. -/
def written (v : Value) : Except Breakdown String :=
  if v.isWritable then .ok v.text else .error .unreadable

mutual

def ofJson : Json.Value → Value
  | .null => null
  | .bool b => bool b
  | .int i => int i
  | .float x => float x
  | .string s => string s
  | .array items => list (ofJsonItems items)
  | .object members => mapping (ofJsonMembers members)

def ofJsonItems : List Json.Value → List Value
  | [] => []
  | v :: vs => ofJson v :: ofJsonItems vs

def ofJsonMembers : List (String × Json.Value) → List (Value × Value)
  | [] => []
  | (k, v) :: ms => (string k, ofJson v) :: ofJsonMembers ms

end

end Value

/-! ### Readers -/

/-- Why a text has no value. -/
inductive Fault
  /-- The text is not well formed. -/
  | malformed
  /-- Reading breaks off, as on a scalar that cannot be read as what its tag says. -/
  | breakdown (b : Breakdown)
deriving DecidableEq

abbrev Result := Except Fault

/-- What reads YAML texts. The programs that read documents take it as it comes. -/
abbrev Reader := List Char → Result Value

end StateCheck.Yaml
