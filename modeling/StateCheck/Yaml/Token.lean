import StateCheck.Text.Utf8
import StateCheck.Yaml.Scalar

/-!
The tokens of a YAML text. Blocks are opened and closed by indentation; a key is recognised by
the colon after it, and its token is put in front of it then.
-/

namespace StateCheck.Yaml

open StateCheck.Text

inductive Directive
  | version (major : Nat)
  | tag (handle start : List Char)
  | other

inductive Token
  | directive (d : Directive)
  | documentStart
  | documentEnd
  | blockSequenceStart
  | blockMappingStart
  | blockEnd
  | flowSequenceStart
  | flowSequenceEnd
  | flowMappingStart
  | flowMappingEnd
  | blockEntry
  | flowEntry
  | key
  | value
  | alias (name : List Char)
  | anchor (name : List Char)
  | tag (handle : Option (List Char)) (suffix : List Char)
  | scalar (isPlain : Bool) (text : List Char)

namespace Token

def isWordChar (x : Char) : Bool := x.isAlphanum || x = '-' || x = '_'

/-! ### Tags and directives -/

/-- A handle of a tag: one exclamation mark, or a word between two. -/
def tagHandle (c : Cursor) : Result (List Char × Cursor) :=
  if c.peek ≠ '!' then malformed
  else if c.peekAt 1 = ' ' then .ok (['!'], c.next)
  else
    let (word, c) := c.next.takeWhile isWordChar
    if c.peek = '!' then .ok ('!' :: (word ++ ['!']), c.next) else malformed

/-- Bytes written as percent signs with two hexadecimal digits. -/
def percentBytes : List Char → Option (List UInt8 × List Char)
  | '%' :: a :: b :: cs => do
    let a ← hexValue? a
    let b ← hexValue? b
    let (bs, rest) ← percentBytes cs
    some (UInt8.ofNat (a * 16 + b) :: bs, rest)
  | '%' :: _ => none
  | cs => some ([], cs)

def isUriChar (x : Char) : Bool := x.isAlphanum || "-;/?:@&=+$,_.!~*'()[]".toList.contains x

def uriText : (fuel : Nat) → Cursor → Result (List Char × Cursor)
  | 0, _ => malformed
  | fuel + 1, c => do
    let (plain, c) := c.takeWhile isUriChar
    if c.peek ≠ '%' then .ok (plain, c)
    else
      let (bytes, rest) ← orMalformed (percentBytes c.rest)
      let text ← orMalformed (Utf8.decode? bytes)
      let (more, c) ← uriText fuel (c.skip (c.rest.length - rest.length))
      .ok (plain ++ text ++ more, c)

/-- The characters of a tag after its handle. -/
def uri (c : Cursor) : Result (List Char × Cursor) := do
  let (text, after) ← uriText (c.rest.length + 1) c
  if after.index = c.index then malformed else .ok (text, after)

/-- Whether an exclamation mark follows before the next space or break. -/
def hasHandle (cs : List Char) : Bool :=
  (cs.dropWhile fun x => !(isSpaceBreakOrEnd x || x = '!')).headD atEnd = '!'

def scanTag (c : Cursor) : Result (Token × Cursor) := do
  let x := c.peekAt 1
  let (handle, suffix, c) ←
    if x = '<' then do
      let (suffix, c) ← uri (c.skip 2)
      if c.peek = '>' then .ok (none, suffix, c.next) else malformed
    else if isGap x then .ok (none, ['!'], c.next)
    else do
      let (handle, c) ←
        if hasHandle (c.rest.drop 1) then tagHandle c else .ok (['!'], c.next)
      let (suffix, c) ← uri c
      .ok (some handle, suffix, c)
  if isSpaceBreakOrEnd c.peek then .ok (.tag handle suffix, c) else malformed

def digits (c : Cursor) : Result (Nat × Cursor) :=
  let (ds, c) := c.takeWhile fun x => '0' ≤ x && x ≤ '9'
  if ds.isEmpty then malformed
  else .ok (ds.foldl (fun n d => n * 10 + (d.toNat - 48)) 0, c)

def scanDirective (c : Cursor) : Result (Token × Cursor) := do
  let (name, c) := c.next.takeWhile isWordChar
  if name.isEmpty || !isSpaceBreakOrEnd c.peek then malformed
  else
    let (d, c) ←
      if name = "YAML".toList then do
        let (major, c) ← digits c.skipSpaces
        if c.peek ≠ '.' then malformed
        else
          let (_, c) ← digits c.next
          if isSpaceBreakOrEnd c.peek then .ok (Directive.version major, c) else malformed
      else if name = "TAG".toList then do
        let (handle, c) ← tagHandle c.skipSpaces
        if c.peek ≠ ' ' then malformed
        else
          let (start, c) ← uri c.skipSpaces
          if isSpaceBreakOrEnd c.peek then .ok (Directive.tag handle start, c) else malformed
      else .ok (Directive.other, c.skipWhile fun x => !isBreak x)
    let c ← orMalformed c.skipRestOfLine?
    .ok (.directive d, c)

def isAfterAnchor (x : Char) : Bool := isGap x || "?:,]\x7d%@\x60".toList.contains x

/-- The name of an anchor or alias. -/
def anchorName (c : Cursor) : Result (List Char × Cursor) :=
  let (name, c) := c.next.takeWhile isWordChar
  if name.isEmpty || !isAfterAnchor c.peek then malformed else .ok (name, c)

/-! ### The scanner -/

/-- A place where a key may turn out to have begun. -/
structure KeyCandidate where
  place : Nat
  required : Bool
  index : Nat
  line : Nat
  column : Nat

/-- The state between two tokens. Indentations and key candidates are stacks, the candidates with
one entry for each open flow collection and one for the block. -/
structure Scanner where
  cursor : Cursor
  tokens : Array Token
  indent : Int
  indents : List Int
  keyAllowed : Bool
  candidate : Option KeyCandidate
  outer : List (Option KeyCandidate)

namespace Scanner

def start (cs : List Char) : Scanner :=
  ⟨.start cs, #[], -1, [], true, none, []⟩

def inFlow (s : Scanner) : Bool := !s.outer.isEmpty

def emit (s : Scanner) (t : Token) : Scanner := { s with tokens := s.tokens.push t }

def isStale (s : Scanner) (k : KeyCandidate) : Bool :=
  k.line ≠ s.cursor.line || s.cursor.index - k.index > 1024

/-- A candidate that can no longer be a key is dropped; where only a key could stand it is
missed. -/
def refresh (s : Scanner) : Option KeyCandidate → Result (Option KeyCandidate)
  | none => .ok none
  | some k =>
    if s.isStale k then if k.required then malformed else .ok none
    else .ok (some k)

def dropStale (s : Scanner) : Result Scanner := do
  let outer ← s.outer.mapM s.refresh
  let candidate ← s.refresh s.candidate
  .ok { s with candidate, outer }

/-- Forgets the candidate of this level, unless a key must stand there. -/
def forgetKey (s : Scanner) : Result Scanner :=
  match s.candidate with
  | some k => if k.required then malformed else .ok { s with candidate := none }
  | none => .ok s

/-- Notes that a key may begin here. -/
def noteKey (s : Scanner) : Result Scanner := do
  if s.keyAllowed then
    let required := !s.inFlow && s.indent == s.cursor.column
    let s ← s.forgetKey
    let k := ⟨s.tokens.size, required, s.cursor.index, s.cursor.line, s.cursor.column⟩
    .ok { s with candidate := some k }
  else .ok s

/-- Closes the blocks that are indented deeper than `column`. -/
def unwind (column : Int) (s : Scanner) : Scanner :=
  if s.inFlow then s
  else
    let open' := s.indent :: s.indents
    let closed := open'.takeWhile (· > column)
    match open'.drop closed.length with
    | indent :: indents =>
      { s with
        indent, indents
        tokens := s.tokens ++ (closed.map fun _ => Token.blockEnd).toArray }
    | [] => s

/-- Opens a block at `column` with the token `t` at `place`, if it lies deeper than the last. -/
def openBlock (t : Token) (column place : Nat) (s : Scanner) : Scanner :=
  if s.indent < column then
    { s with
      indent := column, indents := s.indent :: s.indents
      tokens := s.tokens.insertIdxIfInBounds place t }
  else s

def openHere (t : Token) (s : Scanner) : Scanner := s.openBlock t s.cursor.column s.tokens.size

def advance (s : Scanner) (n : Nat) : Scanner := { s with cursor := s.cursor.skip n }

/-- Ends every block, as before a directive or a document marker. -/
def leaveBlocks (s : Scanner) : Result Scanner := do
  let s ← (s.unwind (-1)).forgetKey
  .ok { s with keyAllowed := false }

/-- A token made of marks only, after which no key may begin at once. -/
def node (s : Scanner) (r : Result (Token × Cursor)) : Result Scanner := do
  let s ← s.noteKey
  let (t, cursor) ← r
  .ok { s with cursor, keyAllowed := false, tokens := s.tokens.push t }

def openFlow (t : Token) (s : Scanner) : Result Scanner := do
  let s ← s.noteKey
  let s := { s with keyAllowed := true, candidate := none, outer := s.candidate :: s.outer }
  .ok ((s.advance 1).emit t)

/-- A closing mark ends the innermost flow collection; outside of all of them it is refused. -/
def closeFlow (t : Token) (s : Scanner) : Result Scanner := do
  let s ← s.forgetKey
  match s.outer with
  | candidate :: outer =>
    .ok (({ s with keyAllowed := false, candidate, outer }.advance 1).emit t)
  | [] => malformed

def blockEntry (s : Scanner) : Result Scanner := do
  if !s.inFlow && !s.keyAllowed then malformed
  else
    let s := if s.inFlow then s else s.openHere .blockSequenceStart
    let s ← { s with keyAllowed := true }.forgetKey
    .ok ((s.advance 1).emit .blockEntry)

def explicitKey (s : Scanner) : Result Scanner := do
  if !s.inFlow && !s.keyAllowed then malformed
  else
    let s := if s.inFlow then s else s.openHere .blockMappingStart
    let s ← { s with keyAllowed := !s.inFlow }.forgetKey
    .ok ((s.advance 1).emit .key)

/-- A colon: what was noted as a possible key becomes one, or the value has an empty key. -/
def mapped (s : Scanner) : Result Scanner := do
  match s.candidate with
  | some k =>
    let s := { s with
      candidate := none, keyAllowed := false
      tokens := s.tokens.insertIdxIfInBounds k.place .key }
    let s := if s.inFlow then s else s.openBlock .blockMappingStart k.column k.place
    .ok ((s.advance 1).emit .value)
  | none =>
    if !s.inFlow && !s.keyAllowed then malformed
    else
      let s := if s.inFlow then s else s.openHere .blockMappingStart
      let s := { s with keyAllowed := !s.inFlow }
      .ok ((s.advance 1).emit .value)

def blockScalar (folded : Bool) (s : Scanner) : Result Scanner := do
  let s ← { s with keyAllowed := true }.forgetKey
  let (text, cursor) ← Scalar.block folded s.indent s.cursor
  .ok ({ s with cursor }.emit (.scalar false text))

def plainScalar (s : Scanner) : Result Scanner := do
  let s ← s.noteKey
  let (text, keyAllowed, cursor) := Scalar.plain s.inFlow (s.indent + 1) s.cursor
  .ok ({ s with cursor, keyAllowed }.emit (.scalar true text))

/-- Past spaces, comments and line breaks; outside of flow collections a key may begin after a
line break. -/
def skipToToken : (fuel : Nat) → Scanner → Scanner
  | 0, s => s
  | fuel + 1, s =>
    let c := s.cursor.skipSpaces.skipComment
    if isBreak c.peek then
      skipToToken fuel { s with cursor := c.lineBreak.2, keyAllowed := s.keyAllowed || !s.inFlow }
    else { s with cursor := c }

def isPlainStart (inFlow : Bool) (x y : Char) : Bool :=
  !(isGap x || "-?:,[]\x7b\x7d#&*!|>\x27\x22%@\x60".toList.contains x) ||
    (!isGap y && (x = '-' || (!inFlow && (x = '?' || x = ':'))))

/-- The next token of the text, the scanner standing in front of it. -/
def token (s : Scanner) : Result Scanner :=
  let c := s.cursor
  let x := c.peek
  let y := c.peekAt 1
  if x = '%' ∧ c.column = 0 then do
    let s ← s.leaveBlocks
    let (t, cursor) ← scanDirective c
    .ok ({ s with cursor }.emit t)
  else if c.column = 0 ∧ c.isMarker '-' then do
    let s ← s.leaveBlocks
    .ok ((s.advance 3).emit .documentStart)
  else if c.column = 0 ∧ c.isMarker '.' then do
    let s ← s.leaveBlocks
    .ok ((s.advance 3).emit .documentEnd)
  else if x = '[' then s.openFlow .flowSequenceStart
  else if x = '{' then s.openFlow .flowMappingStart
  else if x = ']' then s.closeFlow .flowSequenceEnd
  else if x = '}' then s.closeFlow .flowMappingEnd
  else if x = ',' then do
    let s ← { s with keyAllowed := true }.forgetKey
    .ok ((s.advance 1).emit .flowEntry)
  else if x = '-' ∧ isGap y then s.blockEntry
  else if x = '?' ∧ (s.inFlow ∨ isGap y) then s.explicitKey
  else if x = ':' ∧ (s.inFlow ∨ isGap y) then s.mapped
  else if x = '*' then s.node ((anchorName c).map fun (n, c) => (.alias n, c))
  else if x = '&' then s.node ((anchorName c).map fun (n, c) => (.anchor n, c))
  else if x = '!' then s.node (scanTag c)
  else if x = '|' ∧ !s.inFlow then s.blockScalar false
  else if x = '>' ∧ !s.inFlow then s.blockScalar true
  else if x = '\'' ∨ x = '"' then s.node ((Scalar.quoted c).map fun (t, c) => (.scalar false t, c))
  else if isPlainStart s.inFlow x y then s.plainScalar
  else malformed

def run : (fuel : Nat) → Scanner → Result (Array Token)
  | 0, _ => malformed
  | fuel + 1, s => do
    let s ← (skipToToken (s.cursor.rest.length + 1) s).dropStale
    let s := s.unwind s.cursor.column
    if s.cursor.rest.isEmpty then
      let s ← s.leaveBlocks
      .ok s.tokens
    else
      let s ← s.token
      run fuel s

end Scanner

/-- The characters that a YAML text may hold. -/
def isAllowed (x : Char) : Bool :=
  let n := x.toNat
  n == 9 || n == 10 || n == 13 || (0x20 ≤ n && n ≤ 0x7E) || n == 0x85 ||
    (0xA0 ≤ n && n ≤ 0xFFFD) || 0x10000 ≤ n

/-- The text after a byte order mark, which counts as a character but takes no column. -/
def afterMark (cs : List Char) : Scanner :=
  let s := Scanner.start cs
  if s.cursor.peek = '\uFEFF' then s.advance 1 else s

/-- The tokens of a text. -/
def scan (cs : List Char) : Result (List Token) := do
  if cs.all isAllowed then
    let tokens ← Scanner.run (cs.length + 2) (afterMark cs)
    .ok tokens.toList
  else malformed

end Token

end StateCheck.Yaml
