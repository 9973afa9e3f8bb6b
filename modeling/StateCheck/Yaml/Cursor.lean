/-!
A place in a YAML text: what follows it, and its line and column.
-/

namespace StateCheck.Yaml

structure Cursor where
  rest : List Char
  index : Nat
  line : Nat
  column : Nat

/-- The character that stands for the end of the text; no text holds it. -/
def atEnd : Char := '\x00'

def isBreak (c : Char) : Bool :=
  c = '\n' || c = '\r' || c = '\x85' || c = '\u2028' || c = '\u2029'

def isBreakOrEnd (c : Char) : Bool := c = atEnd || isBreak c

/-- A space, a line break or the end. -/
def isSpaceBreakOrEnd (c : Char) : Bool := c = ' ' || isBreakOrEnd c

/-- What ends a word: a space, a tab, a line break or the end. -/
def isGap (c : Char) : Bool := c = '\t' || isSpaceBreakOrEnd c

namespace Cursor

def start (cs : List Char) : Cursor := ⟨cs, 0, 0, 0⟩

def peek (c : Cursor) : Char := c.rest.headD atEnd

def peekAt (c : Cursor) (n : Nat) : Char := (c.rest.drop n).headD atEnd

/-- One character further. A byte order mark takes no column. -/
def next (c : Cursor) : Cursor :=
  match c.rest with
  | [] => c
  | x :: rest =>
    if isBreak x && !(x = '\r' && rest.head? == some '\n') then ⟨rest, c.index + 1, c.line + 1, 0⟩
    else ⟨rest, c.index + 1, c.line, if x = '\uFEFF' then c.column else c.column + 1⟩

def skip : Nat → Cursor → Cursor
  | 0, c => c
  | n + 1, c => skip n c.next

/-- Past the leading characters of `p`. -/
def skipWhile (p : Char → Bool) (c : Cursor) : Cursor :=
  skip (c.rest.takeWhile p).length c

/-- The leading characters of `p`, and the place after them. -/
def takeWhile (p : Char → Bool) (c : Cursor) : List Char × Cursor :=
  let cs := c.rest.takeWhile p
  (cs, skip cs.length c)

/-- Past a line break, with the text it stands for; the place itself if there is none. -/
def lineBreak (c : Cursor) : List Char × Cursor :=
  match c.rest with
  | '\r' :: '\n' :: _ => (['\n'], c.next.next)
  | x :: _ =>
    if x = '\u2028' || x = '\u2029' then ([x], c.next)
    else if isBreak x then (['\n'], c.next)
    else ([], c)
  | [] => ([], c)

/-- Whether three times `mark` and then a gap stand here. -/
def isMarker (mark : Char) (c : Cursor) : Bool :=
  [mark, mark, mark].isPrefixOf c.rest && isGap (c.peekAt 3)

/-- Whether a document begins or ends here. -/
def isDocumentMarker (c : Cursor) : Bool := c.isMarker '-' || c.isMarker '.'

def skipSpaces (c : Cursor) : Cursor := c.skipWhile (· == ' ')

/-- Past a comment up to the end of its line. -/
def skipComment (c : Cursor) : Cursor :=
  if c.peek = '#' then c.skipWhile (fun x => !isBreak x) else c

/-- Past spaces, a comment and the line break, if nothing else stands on the line. -/
def skipRestOfLine? (c : Cursor) : Option Cursor :=
  let c := c.skipSpaces.skipComment
  if isBreakOrEnd c.peek then some c.lineBreak.2 else none

end Cursor

end StateCheck.Yaml
