import StateCheck.Json.Value
import StateCheck.Number.Decimal

/-!
Writing JSON text in ASCII.
-/

namespace StateCheck.Json

open StateCheck.Text

/-- How the parts of arrays and objects are set apart: the separators, and the width of one
level of indentation if every part has a line of its own. -/
structure Style where
  comma : List Char
  colon : List Char
  indent : Option Nat

def Style.compact : Style := ⟨[','], [':'], none⟩

def Style.spaced : Style := ⟨[',', ' '], [':', ' '], none⟩

def Style.indented (width : Nat) : Style := ⟨[','], [':', ' '], some width⟩

def escapedUnit (n : Nat) : List Char := '\\' :: 'u' :: hexadecimal 4 n

def escaped (c : Char) : List Char :=
  let n := c.toNat
  if c = '"' then ['\\', '"']
  else if c = '\\' then ['\\', '\\']
  else if c = '\n' then ['\\', 'n']
  else if c = '\r' then ['\\', 'r']
  else if c = '\t' then ['\\', 't']
  else if n = 8 then ['\\', 'b']
  else if n = 12 then ['\\', 'f']
  else if 32 ≤ n && n ≤ 126 then [c]
  else if n < 0x10000 then escapedUnit n
  else escapedUnit (0xD800 + (n - 0x10000) / 0x400) ++ escapedUnit (0xDC00 + (n - 0x10000) % 0x400)

def writeString (s : String) : List Char := '"' :: (s.toList.flatMap escaped ++ ['"'])

def writeFloat : Binary64 → List Char
  | .nan => ['N', 'a', 'N']
  | .infinite negative => Decimal.signText negative ++ "Infinity".toList
  | x => Decimal.text x

/-- The line break and indentation before a part at the given depth. -/
def Style.break (style : Style) (depth : Nat) : List Char :=
  match style.indent with
  | none => []
  | some width => '\n' :: List.replicate (width * depth) ' '

mutual

def write (style : Style) (depth : Nat) : Value → List Char
  | .null => "null".toList
  | .bool true => "true".toList
  | .bool false => "false".toList
  | .int i => decimalInt i
  | .float x => writeFloat x
  | .string s => writeString s
  | .array [] => ['[', ']']
  | .array (v :: vs) =>
    '[' :: (style.break (depth + 1) ++ write style (depth + 1) v ++
      writeItems style (depth + 1) vs ++ style.break depth ++ [']'])
  | .object [] => ['{', '}']
  | .object ((k, v) :: ms) =>
    '{' :: (style.break (depth + 1) ++ writeString k ++ style.colon ++ write style (depth + 1) v ++
      writeMembers style (depth + 1) ms ++ style.break depth ++ ['}'])

/-- The values after the first one. -/
def writeItems (style : Style) (depth : Nat) : List Value → List Char
  | [] => []
  | v :: vs => style.comma ++ style.break depth ++ write style depth v ++ writeItems style depth vs

/-- The members after the first one. -/
def writeMembers (style : Style) (depth : Nat) : List (String × Value) → List Char
  | [] => []
  | (k, v) :: ms =>
    style.comma ++ style.break depth ++ writeString k ++ style.colon ++ write style depth v ++
      writeMembers style depth ms

end

def Value.text (v : Value) (style : Style) : String := String.ofList (write style 0 v)

end StateCheck.Json
