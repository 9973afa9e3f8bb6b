import StateCheck.Text.Digit
import StateCheck.Text.Printable

/-!
Quoted spellings of texts and byte strings.
-/

namespace StateCheck.Text

/-- A double quote surrounds what holds single quotes only; otherwise a single quote does. -/
def quoteFor (cs : List Char) : Char :=
  if cs.contains '\'' && !cs.contains '"' then '"' else '\''

def escapedChar (quote c : Char) : List Char :=
  let n := c.toNat
  if c = quote || c = '\\' then ['\\', c]
  else if c = '\t' then ['\\', 't']
  else if c = '\n' then ['\\', 'n']
  else if c = '\r' then ['\\', 'r']
  else if isPrintable c then [c]
  else if n < 0x100 then '\\' :: 'x' :: hexadecimal 2 n
  else if n < 0x10000 then '\\' :: 'u' :: hexadecimal 4 n
  else '\\' :: 'U' :: hexadecimal 8 n

/-- The quoted spelling of a text: printable characters stand for themselves. -/
def quoted (cs : List Char) : List Char :=
  let quote := quoteFor cs
  quote :: (cs.flatMap (escapedChar quote) ++ [quote])

def escapedByte (quote : Char) (b : UInt8) : List Char :=
  let n := b.toNat
  if n < 127 then escapedChar quote (Char.ofNat n) else '\\' :: 'x' :: hexadecimal 2 n

/-- The quoted spelling of a byte string, marked by a leading `b`. -/
def quotedBytes (bs : List UInt8) : List Char :=
  let quote := quoteFor (bs.map fun b => Char.ofNat b.toNat)
  'b' :: quote :: (bs.flatMap (escapedByte quote) ++ [quote])

end StateCheck.Text
