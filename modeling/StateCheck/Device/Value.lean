import StateCheck.Number.Reading
import StateCheck.Text.Utf8
import StateCheck.Yaml.Value
import StateCheck.Json.Writer
import StateCheck.Breakdown

/-!
Values as devices report them, each with the encoding that the device gave it, and the text that
assertions compare.
-/

namespace StateCheck.Device

/-- The encoding of a reported value. -/
inductive Encoding
  | string | int | uint | bool | float | json | jsonIetf | ascii
deriving DecidableEq

namespace Encoding

def all : List Encoding := [string, int, uint, bool, float, json, jsonIetf, ascii]

def name : Encoding → String
  | string => "string"
  | int => "int"
  | uint => "uint"
  | bool => "bool"
  | float => "float"
  | json => "json"
  | jsonIetf => "json_ietf"
  | ascii => "ascii"

def ofName? (s : String) : Option Encoding := all.find? fun e => e.name == s

/-- The encoding that a field of a device message announces. -/
def ofField : String → Encoding
  | "int_val" => int
  | "uint_val" => uint
  | "bool_val" => bool
  | "float_val" | "double_val" => float
  | "json_val" => json
  | "json_ietf_val" => jsonIetf
  | "ascii_val" => ascii
  | _ => string

end Encoding

/-- What a reported value holds. -/
inductive Payload
  | null
  | bool (b : Bool)
  | int (i : Int)
  | float (x : Binary64)
  | string (s : String)
  | bytes (bs : List UInt8)
  | tree (v : Json.Value)

namespace Payload

def ofJson : Json.Value → Payload
  | .null => null
  | .bool b => bool b
  | .int i => int i
  | .float x => float x
  | .string s => string s
  | v => tree v

/-- The payload as a document value, which has the same text. -/
def toYaml : Payload → Yaml.Value
  | null => .null
  | bool b => .bool b
  | int i => .int i
  | float x => .float x
  | string s => .string s
  | bytes bs => .bytes bs
  | tree v => .ofJson v

def isTruthy (p : Payload) : Bool := p.toYaml.isTruthy

/-- The text of a payload; bytes are read as UTF-8 with a mark for whatever is not. -/
def text : Payload → Except Breakdown String
  | bytes bs => .ok (String.ofList (Text.Utf8.decodeLossy bs))
  | p => p.toYaml.written

/-- The characters of a number, which may be given as bytes. -/
def numeral? : Payload → Option (List Char)
  | string s => some s.toList
  | bytes bs =>
    if bs.all (· < 128) then some (bs.map fun b => Char.ofNat b.toNat) else some []
  | _ => none

def orUnreadable {α : Type} : Option α → Except Breakdown α
  | some a => .ok a
  | none => .error .unreadable

/-- The whole number that a payload stands for; a fraction is cut off. -/
def toInt : Payload → Except Breakdown Int
  | bool b => .ok b.toNat
  | int i => .ok i
  | float (.infinite _) => .error .overflow
  | float x => orUnreadable x.truncate?
  | p =>
    match p.numeral? with
    | some cs => orUnreadable (Numeral.readInt? cs)
    | none => .error .wrongType

/-- The number that a payload stands for. -/
def toFloat : Payload → Except Breakdown Binary64
  | bool b => .ok (.ofNat b.toNat)
  | int i =>
    match Binary64.ofInt i with
    | .infinite _ => .error .overflow
    | x => .ok x
  | float x => .ok x
  | p =>
    match p.numeral? with
    | some cs => orUnreadable (Numeral.readFloat? cs)
    | none => .error .wrongType

end Payload

/-- A value with its encoding. -/
structure Value where
  encoding : Encoding
  payload : Payload

namespace Value

/-- The value that a decoded document stands for; nothing stands for null. Floats and containers
are kept as compact JSON text. -/
def ofPayload? : Payload → Option Value
  | .null => none
  | .bool b => some ⟨.bool, .bool b⟩
  | .int i => some ⟨if i < 0 then .int else .uint, .int i⟩
  | .float x => some ⟨.jsonIetf, .string (Json.Value.text (.float x) .compact)⟩
  | .tree v => some ⟨.jsonIetf, .string (v.text .compact)⟩
  | .bytes bs => some ⟨.ascii, .bytes bs⟩
  | .string s => some ⟨.string, .string s⟩

def ofJson? (v : Json.Value) : Option Value := ofPayload? (.ofJson v)

/-- The text of a value: whole numbers in decimal, floats with six places, truth values in lower
case, everything else as it stands. -/
def text (v : Value) : Except Breakdown String :=
  match v.payload with
  | .null => .ok ""
  | p =>
    match v.encoding with
    | .int | .uint => do
      let i ← p.toInt
      (Yaml.Value.int i).written
    | .bool => .ok (if p.isTruthy then "true" else "false")
    | .float => p.toFloat.map fun x => String.ofList (Decimal.fixed 6 x)
    | _ => p.text

/-- The text of a value that may be missing; a missing value has none. -/
def textOf : Option Value → Except Breakdown String
  | none => .ok ""
  | some v => v.text

end Value

/-- What a device answers to a request: a value, and whether the path exists. -/
structure Answer where
  value : Option Value
  found : Bool

end StateCheck.Device
