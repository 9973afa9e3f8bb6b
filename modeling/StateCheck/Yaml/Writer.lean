import StateCheck.Yaml.Node
import StateCheck.Yaml.Value

/-!
Writing documents in block style, lines folded at eighty columns.
-/

namespace StateCheck.Yaml

open StateCheck.Text

namespace Writer

/-- Lines are broken at the first space beyond this column. -/
def width : Nat := 80

/-- The text written so far, reversed, with the column of its end. `fresh` holds at the
indentation of a line, `spaced` after white space. -/
structure Page where
  reversed : List Char
  column : Nat
  spaced : Bool
  fresh : Bool

namespace Page

def blank : Page := ⟨[], 0, true, true⟩

def put (cs : List Char) (p : Page) : Page :=
  { p with reversed := cs.reverse ++ p.reversed, column := p.column + cs.length }

def breakWith (c : Char) (p : Page) : Page := ⟨c :: p.reversed, 0, true, true⟩

/-- Goes to column `indent`, on a new line unless the page stands before it on a fresh one. -/
def goTo (indent : Nat) (p : Page) : Page :=
  let isPast := p.column > indent || (p.column = indent && !p.spaced)
  let p := if !p.fresh || isPast then p.breakWith '\n' else p
  if p.column < indent then
    { p.put (List.replicate (indent - p.column) ' ') with spaced := true }
  else p

/-- Writes a mark, after a space if one is needed. -/
def mark (cs : List Char) (needsSpace : Bool) (keepsFresh : Bool) (p : Page) : Page :=
  let p := p.put (if needsSpace && !p.spaced then ' ' :: cs else cs)
  { p with spaced := false, fresh := p.fresh && keepsFresh }

end Page

/-! ### The style of a scalar -/

def isBreak (c : Char) : Bool := c = '\n' || c = '\x85' || c = '\u2028' || c = '\u2029'

/-- Whether a character must be escaped wherever it stands. -/
def isSpecial (c : Char) : Bool :=
  let n := c.toNat
  !(c = '\n' || (0x20 ≤ n && n ≤ 0x7E) || n = 0x85 ||
    (0xA0 ≤ n && n ≤ 0xFFFD && n ≠ 0xFEFF) || (0x10000 ≤ n && n < 0x10FFFF))

def isGapOrNone : Option Char → Bool
  | none => true
  | some c => isGap c

/-- Whether `c`, between `before` and `after`, would be read as more than text in a block. -/
def isIndicator (before : Option Char) (c : Char) (after : Option Char) : Bool :=
  match before with
  | none =>
    "#,[]\x7b\x7d&*!|>\x27\x22%@\x60".toList.contains c ||
      ((c = '?' || c = ':' || c = '-') && isGapOrNone after)
  | some b => (c = ':' && isGapOrNone after) || (c = '#' && isGap b)

def hasIndicator : Option Char → List Char → Bool
  | _, [] => false
  | before, c :: cs => isIndicator before c cs.head? || hasIndicator (some c) cs

/-- Whether a character of `p` is followed at once by one of `q`. -/
def hasPair (p q : Char → Bool) : List Char → Bool
  | a :: b :: cs => (p a && q b) || hasPair p q (b :: cs)
  | _ => false

def isSpace (c : Char) : Bool := c = ' '

inductive Style
  | plain | single | double
deriving DecidableEq

/-- Whether a text may stand without quotes: nothing in it is read as a mark, and no white space
is lost at its ends. -/
def allowsPlain (cs : List Char) : Bool :=
  let isOuter (c : Option Char) : Bool := c.any fun c => isSpace c || isBreak c
  !(cs.isEmpty || ['-', '-', '-'].isPrefixOf cs || ['.', '.', '.'].isPrefixOf cs ||
    hasIndicator none cs || cs.any isBreak || isOuter cs.head? || isOuter cs.getLast? ||
    cs.any isSpecial)

/-- Whether a text may stand in single quotes. -/
def allowsSingle (cs : List Char) : Bool :=
  !(hasPair isBreak isSpace cs || hasPair isSpace isBreak cs || cs.any isSpecial)

/-- The style of a text: plain if it is read back as a string. -/
def styleOf (cs : List Char) : Style :=
  if allowsPlain cs && Tag.ofPlain cs = .string then .plain
  else if allowsSingle cs then .single
  else .double

/-! ### Writing scalars -/

inductive Run
  | spaces (count : Nat)
  | breaks (cs : List Char)
  | others (cs : List Char)

/-- The maximal runs of spaces, of line breaks and of other characters. -/
def runs : List Char → List Run
  | [] => []
  | c :: cs =>
    if c = ' ' then
      match runs cs with
      | .spaces n :: rs => .spaces (n + 1) :: rs
      | rs => .spaces 1 :: rs
    else if isBreak c then
      match runs cs with
      | .breaks bs :: rs => .breaks (c :: bs) :: rs
      | rs => .breaks [c] :: rs
    else
      match runs cs with
      | .others os :: rs => .others (c :: os) :: rs
      | rs => .others [c] :: rs

/-- A single space beyond the width becomes a line break. -/
def plainRun (indent : Nat) (p : Page) : Run → Page
  | .spaces n =>
    if n = 1 ∧ width < p.column then { p.goTo indent with spaced := false, fresh := false }
    else p.put (List.replicate n ' ')
  | .breaks cs | .others cs => p.put cs

def writePlain (indent : Nat) (cs : List Char) (p : Page) : Page :=
  let p := if p.spaced then p else p.put [' ']
  (runs cs).foldl (plainRun indent) { p with spaced := false, fresh := false }

def doubleQuotes (cs : List Char) : List Char :=
  cs.flatMap fun c => if c = '\'' then ['\'', '\''] else [c]

/-- The runs of a single quoted text, from the one after `isFirst` on. -/
def singleRuns (indent : Nat) : (isFirst : Bool) → Page → List Run → Page
  | _, p, [] => p
  | isFirst, p, r :: rs =>
    let p := match r with
      | .spaces n =>
        if n = 1 ∧ width < p.column ∧ !isFirst ∧ !rs.isEmpty then p.goTo indent
        else p.put (List.replicate n ' ')
      | .breaks cs =>
        let p := if cs.head? = some '\n' then p.breakWith '\n' else p
        (cs.foldl (fun p c => p.breakWith c) p).goTo indent
      | .others cs => p.put (doubleQuotes cs)
    singleRuns indent false p rs

def writeSingle (indent : Nat) (cs : List Char) (p : Page) : Page :=
  (singleRuns indent true (p.mark ['\''] true false) (runs cs)).mark ['\''] false false

def upperHex (width n : Nat) : List Char := (hexadecimal width n).map Char.toUpper

def namedEscape? (c : Char) : Option Char :=
  match c with
  | '\x00' => some '0'
  | '\x07' => some 'a'
  | '\x08' => some 'b'
  | '\t' => some 't'
  | '\n' => some 'n'
  | '\x0b' => some 'v'
  | '\x0c' => some 'f'
  | '\r' => some 'r'
  | '\x1b' => some 'e'
  | '"' => some '"'
  | '\\' => some '\\'
  | '\x85' => some 'N'
  | '\u2028' => some 'L'
  | '\u2029' => some 'P'
  | _ => none

def needsEscape (c : Char) : Bool :=
  let n := c.toNat
  (namedEscape? c).isSome || n = 0xFEFF ||
    !((0x20 ≤ n && n ≤ 0x7E) || (0xA0 ≤ n && n ≤ 0xFFFD))

def escape (c : Char) : List Char :=
  let n := c.toNat
  match namedEscape? c with
  | some x => ['\\', x]
  | none =>
    if n ≤ 0xFF then '\\' :: 'x' :: upperHex 2 n
    else if n ≤ 0xFFFF then '\\' :: 'u' :: upperHex 4 n
    else '\\' :: 'U' :: upperHex 8 n

/-- Ends a line of a double quoted text with a backslash; a space that would begin the next line
is marked by another one. -/
def splitDouble (indent : Nat) (pending : List Char) (next : Option Char) (p : Page) : Page :=
  let p := { (p.put (pending ++ ['\\'])).goTo indent with spaced := false, fresh := false }
  if next = some ' ' then p.put ['\\'] else p

/-- The characters of a double quoted text. `pending` are those not yet written; a line may end
before a space or after an escape, but not at the first or the last character. -/
def doubleChars (indent : Nat) : (isFirst : Bool) → (pending : List Char) → Page → List Char → Page
  | _, pending, p, [] => p.put pending
  | isFirst, pending, p, c :: cs =>
    let inside := !isFirst && !cs.isEmpty
    if needsEscape c then
      let p := (p.put pending).put (escape c)
      let p := if inside && width + 1 < p.column then splitDouble indent [] cs.head? p else p
      doubleChars indent false [] p cs
    else if inside && (c = ' ' || pending.isEmpty) && width < p.column + pending.length then
      doubleChars indent false [c] (splitDouble indent pending (some c) p) cs
    else doubleChars indent false (pending ++ [c]) p cs

def writeDouble (indent : Nat) (cs : List Char) (p : Page) : Page :=
  (doubleChars indent true [] (p.mark ['"'] true false) cs).mark ['"'] false false

def writeText (indent : Nat) (cs : List Char) (p : Page) : Page :=
  match styleOf cs with
  | .plain => writePlain indent cs p
  | .single => writeSingle indent cs p
  | .double => writeDouble indent cs p

/-! ### Writing documents -/

/-- The text of a value that is neither text nor a collection. -/
def scalarText : Value → List Char
  | .null => "null".toList
  | .bool b => (if b then "true" else "false").toList
  | v => v.text.toList

mutual

/-- Writes the value of a member or an entry whose block is indented by `indent`. A list inside a
mapping stays at the indentation of the mapping. -/
def writeValue (indent : Nat) (inMapping : Bool) (p : Page) : Value → Page
  | .string s => writeText (indent + 2) s.toList p
  | .list [] => (p.mark ['['] true false).put [']']
  | .mapping [] => (p.mark ['\x7b'] true false).put ['\x7d']
  | .list items => writeItems (if inMapping then indent else indent + 2) p items
  | .mapping members => writeMembers (indent + 2) p members
  | v => writePlain (indent + 2) (scalarText v) p

def writeItems (indent : Nat) (p : Page) : List Value → Page
  | [] => p
  | v :: vs =>
    let p := (p.goTo indent).mark ['-'] true true
    writeItems indent (writeValue indent false p v) vs

def writeMembers (indent : Nat) (p : Page) : List (Value × Value) → Page
  | [] => p
  | (k, v) :: ms =>
    let p := (writeText indent k.text.toList (p.goTo indent)).mark [':'] false false
    writeMembers indent (writeValue indent true p v) ms

end

end Writer

/-- The text of a document whose outermost value is a mapping. -/
def write (members : List (Value × Value)) : String :=
  let p := Writer.writeMembers 0 .blank members
  String.ofList (p.goTo 0).reversed.reverse

end StateCheck.Yaml
