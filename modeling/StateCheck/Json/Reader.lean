import StateCheck.Json.Value
import StateCheck.Number.Reading

/-!
Reading JSON text. Beside the standard grammar the names `NaN`, `Infinity` and `-Infinity` are
numbers; of two members with one key the later value stands at the place of the earlier.
-/

namespace StateCheck.Json

open StateCheck.Text

def isSpace (c : Char) : Bool := c = ' ' || c = '\t' || c = '\n' || c = '\r'

def skipSpace (cs : List Char) : List Char := cs.dropWhile isSpace

/-- Four hexadecimal digits. -/
def readUnit : List Char → Option (Nat × List Char)
  | a :: b :: c :: d :: cs => do
    let a ← hexValue? a
    let b ← hexValue? b
    let c ← hexValue? c
    let d ← hexValue? d
    some (((a * 16 + b) * 16 + c) * 16 + d, cs)
  | _ => none

def isHighUnit (n : Nat) : Bool := 0xD800 ≤ n && n ≤ 0xDBFF

def isLowUnit (n : Nat) : Bool := 0xDC00 ≤ n && n ≤ 0xDFFF

/-- The character of one unit; half of a pair alone becomes the replacement character. -/
def unitChar (n : Nat) : Char :=
  if isHighUnit n || isLowUnit n then '\uFFFD' else Char.ofNat n

def pairChar (high low : Nat) : Char :=
  Char.ofNat (0x10000 + (high - 0xD800) * 0x400 + (low - 0xDC00))

def simpleEscape? : Char → Option Char
  | '"' => some '"'
  | '\\' => some '\\'
  | '/' => some '/'
  | 'b' => some '\x08'
  | 'f' => some '\x0c'
  | 'n' => some '\n'
  | 'r' => some '\r'
  | 't' => some '\t'
  | _ => none

/-- The character after `\u`, a pair of escapes being one character. -/
def readEscapedUnit (cs : List Char) : Option (Char × List Char) := do
  let (high, rest) ← readUnit cs
  match rest with
  | '\\' :: 'u' :: rest' =>
    if isHighUnit high then
      match readUnit rest' with
      | some (low, rest'') =>
        if isLowUnit low then some (pairChar high low, rest'') else some (unitChar high, rest)
      | none => none
    else some (unitChar high, rest)
  | _ => some (unitChar high, rest)

/-- The text up to the closing quote, and what follows it. -/
def readText : (fuel : Nat) → List Char → Option (List Char × List Char)
  | 0, _ => none
  | _, [] => none
  | _ + 1, '"' :: cs => some ([], cs)
  | fuel + 1, '\\' :: 'u' :: cs => do
    let (c, rest) ← readEscapedUnit cs
    let (text, rest) ← readText fuel rest
    some (c :: text, rest)
  | fuel + 1, '\\' :: e :: cs => do
    let c ← simpleEscape? e
    let (text, rest) ← readText fuel cs
    some (c :: text, rest)
  | fuel + 1, c :: cs =>
    if c = '\\' ∨ c.toNat < 32 then none
    else do
      let (text, rest) ← readText fuel cs
      some (c :: text, rest)

def readString (fuel : Nat) (cs : List Char) : Option (String × List Char) := do
  let (text, rest) ← readText fuel cs
  some (String.ofList text, rest)

def isDigit (c : Char) : Bool := '0' ≤ c && c ≤ '9'

def digitsOf (cs : List Char) : List Nat := cs.map fun c => c.toNat - 48

/-- The places after a point that a digit follows. -/
def takePlaces : List Char → Option (List Char) × List Char
  | '.' :: d :: cs =>
    if isDigit d then (some ((d :: cs).takeWhile isDigit), (d :: cs).dropWhile isDigit)
    else (none, '.' :: d :: cs)
  | cs => (none, cs)

/-- The power of ten after an `e` that a digit follows. -/
def takePower : List Char → Option Int × List Char
  | e :: cs =>
    if e = 'e' ∨ e = 'E' then
      let (negative, cs') := Numeral.takeSign cs
      match cs'.takeWhile isDigit with
      | [] => (none, e :: cs)
      | ds =>
        let n : Int := Numeral.ofDigits 10 (digitsOf ds)
        (some (if negative then -n else n), cs'.dropWhile isDigit)
    else (none, e :: cs)
  | [] => (none, [])

/-- The digits before the point: a zero stands alone. -/
def takeWhole : List Char → Option (List Char × List Char)
  | '0' :: cs => some (['0'], cs)
  | cs => match cs.takeWhile isDigit with
    | [] => none
    | ds => some (ds, cs.dropWhile isDigit)

def readMagnitude (negative : Bool) (cs : List Char) : Option (Value × List Char) := do
  let (whole, rest) ← takeWhole cs
  let (places, rest) := takePlaces rest
  let (power, rest) := takePower rest
  match places, power with
  | none, none =>
    if Numeral.digitLimit < whole.length then none
    else
      let n : Int := Numeral.ofDigits 10 (digitsOf whole)
      some (.int (if negative then -n else n), rest)
  | places, power =>
    let places := places.getD []
    let e := power.getD 0 - places.length
    some (.float (Numeral.scale negative (digitsOf (whole ++ places)) e), rest)

def readNumber : List Char → Option (Value × List Char)
  | '-' :: 'I' :: 'n' :: 'f' :: 'i' :: 'n' :: 'i' :: 't' :: 'y' :: cs =>
    some (.float (.infinite true), cs)
  | '-' :: cs => readMagnitude true cs
  | cs => readMagnitude false cs

mutual

/-- A value at the start of the text, and what follows it. -/
def readValue : (fuel : Nat) → List Char → Option (Value × List Char)
  | 0, _ => none
  | fuel + 1, cs =>
    match cs with
    | '"' :: cs => (readString fuel cs).map fun (s, rest) => (.string s, rest)
    | '[' :: cs =>
      match skipSpace cs with
      | ']' :: rest => some (.array [], rest)
      | cs => (readItems fuel cs).map fun (items, rest) => (.array items, rest)
    | '{' :: cs =>
      match skipSpace cs with
      | '}' :: rest => some (.object [], rest)
      | cs => (readMembers fuel cs).map fun (ms, rest) => (.object (Value.ofMembers ms), rest)
    | 'n' :: 'u' :: 'l' :: 'l' :: rest => some (.null, rest)
    | 't' :: 'r' :: 'u' :: 'e' :: rest => some (.bool true, rest)
    | 'f' :: 'a' :: 'l' :: 's' :: 'e' :: rest => some (.bool false, rest)
    | 'N' :: 'a' :: 'N' :: rest => some (.float .nan, rest)
    | 'I' :: 'n' :: 'f' :: 'i' :: 'n' :: 'i' :: 't' :: 'y' :: rest =>
      some (.float (.infinite false), rest)
    | cs => readNumber cs

/-- One or more values up to the closing bracket. -/
def readItems : (fuel : Nat) → List Char → Option (List Value × List Char)
  | 0, _ => none
  | fuel + 1, cs => do
    let (v, rest) ← readValue fuel cs
    match skipSpace rest with
    | ']' :: rest => some ([v], rest)
    | ',' :: rest =>
      let (vs, rest) ← readItems fuel (skipSpace rest)
      some (v :: vs, rest)
    | _ => none

/-- One or more members up to the closing brace. -/
def readMembers : (fuel : Nat) → List Char → Option (List (String × Value) × List Char)
  | 0, _ => none
  | fuel + 1, cs => do
    let (k, rest) ← match cs with
      | '"' :: cs => readString fuel cs
      | _ => none
    let rest ← match skipSpace rest with
      | ':' :: rest => some rest
      | _ => none
    let (v, rest) ← readValue fuel (skipSpace rest)
    match skipSpace rest with
    | '}' :: rest => some ([(k, v)], rest)
    | ',' :: rest =>
      let (ms, rest) ← readMembers fuel (skipSpace rest)
      some ((k, v) :: ms, rest)
    | _ => none

end

/-- The value that a text holds, with space around it. -/
def read? (cs : List Char) : Option Value := do
  let (v, rest) ← readValue (2 * cs.length + 2) (skipSpace cs)
  match skipSpace rest with
  | [] => some v
  | _ => none

end StateCheck.Json
