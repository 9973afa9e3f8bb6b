import StateCheck.Text.Digit
import StateCheck.Yaml.Cursor
import StateCheck.Yaml.Value

/-!
The texts of scalars: plain, quoted and block scalars, their lines folded.
-/

namespace StateCheck.Yaml

open StateCheck.Text

def malformed {α : Type} : Result α := .error .malformed

def orMalformed {α : Type} : Option α → Result α
  | some a => .ok a
  | none => malformed

namespace Scalar

/-! ### Quoted scalars -/

def namedEscape? : Char → Option Char
  | '0' => some '\x00'
  | 'a' => some '\x07'
  | 'b' => some '\x08'
  | 't' | '\t' => some '\t'
  | 'n' => some '\n'
  | 'v' => some '\x0b'
  | 'f' => some '\x0c'
  | 'r' => some '\r'
  | 'e' => some '\x1b'
  | ' ' => some ' '
  | '"' => some '"'
  | '\\' => some '\\'
  | '/' => some '/'
  | 'N' => some '\x85'
  | '_' => some '\xa0'
  | 'L' => some '\u2028'
  | 'P' => some '\u2029'
  | _ => none

def codeWidth? : Char → Option Nat
  | 'x' => some 2
  | 'u' => some 4
  | 'U' => some 8
  | _ => none

/-- The character of a code; half of a pair becomes the replacement character. -/
def codeChar (n : Nat) : Result Char :=
  if n < 0x110000 then
    .ok (if 0xD800 ≤ n && n ≤ 0xDFFF then '\uFFFD' else Char.ofNat n)
  else .error (.breakdown (if n < 0x80000000 then .unreadable else .overflow))

/-- The breaks of a quoted scalar after its first one; a document marker may not stand there. -/
def quotedBreaks : (fuel : Nat) → Cursor → Result (List Char × Cursor)
  | 0, _ => malformed
  | fuel + 1, c =>
    if c.isDocumentMarker then malformed
    else
      let c := c.skipWhile fun x => x == ' ' || x == '\t'
      if isBreak c.peek then do
        let (text, c) := c.lineBreak
        let (more, c) ← quotedBreaks fuel c
        .ok (text ++ more, c)
      else .ok ([], c)

/-- Blanks and line breaks inside a quoted scalar: a single line break is a space. -/
def quotedGap (c : Cursor) : Result (List Char × Cursor) :=
  let (blanks, c) := c.takeWhile fun x => x == ' ' || x == '\t'
  if c.peek = atEnd then malformed
  else if isBreak c.peek then do
    let (first, c) := c.lineBreak
    let (more, c) ← quotedBreaks (c.rest.length + 1) c
    if first ≠ ['\n'] then .ok (first ++ more, c)
    else if more.isEmpty then .ok ([' '], c)
    else .ok (more, c)
  else .ok (blanks, c)

def isQuotedStop (x : Char) : Bool := x = '\'' || x = '"' || x = '\\' || isGap x

/-- What an escape stands for, from the character after the backslash on. -/
def escape (c : Cursor) : Result (List Char × Cursor) :=
  match namedEscape? c.peek with
  | some x => .ok ([x], c.next)
  | none =>
    match codeWidth? c.peek with
    | some width => do
      let c := c.next
      let digits := c.rest.take width
      let values ← orMalformed (digits.mapM hexValue?)
      if values.length < width then malformed
      else
        let x ← codeChar (values.foldl (fun n d => n * 16 + d) 0)
        .ok ([x], c.skip width)
    | none =>
      if isBreak c.peek then
        let c := c.lineBreak.2
        quotedBreaks (c.rest.length + 1) c
      else malformed

/-- The text of a quoted scalar up to and with its closing quote. -/
def quotedText (double : Bool) : (fuel : Nat) → Cursor → Result (List Char × Cursor)
  | 0, _ => malformed
  | fuel + 1, c =>
    let (plain, c) := c.takeWhile fun x => !isQuotedStop x
    let continueWith (text : List Char) (c : Cursor) : Result (List Char × Cursor) := do
      let (more, c) ← quotedText double fuel c
      .ok (plain ++ text ++ more, c)
    let x := c.peek
    if double then
      if x = '"' then .ok (plain, c.next)
      else if x = '\'' then continueWith [x] c.next
      else if x = '\\' then do
        let (text, c) ← escape c.next
        continueWith text c
      else do
        let (text, c) ← quotedGap c
        continueWith text c
    else
      if x = '\'' then
        if c.peekAt 1 = '\'' then continueWith ['\''] c.next.next else .ok (plain, c.next)
      else if x = '"' || x = '\\' then continueWith [x] c.next
      else do
        let (text, c) ← quotedGap c
        continueWith text c

/-- A quoted scalar from its opening quote on. -/
def quoted (c : Cursor) : Result (List Char × Cursor) :=
  quotedText (c.peek == '"') (c.rest.length + 1) c.next

/-! ### Plain scalars -/

def isFlowMark (x : Char) : Bool :=
  x = ',' || x = '[' || x = ']' || x = '{' || x = '}'

/-- Whether a plain scalar ends before the first of the characters. -/
def endsPlain (inFlow : Bool) : List Char → Bool
  | [] => true
  | x :: rest =>
    let y := rest.headD atEnd
    isGap x || (x = ':' && (isGap y || (inFlow && isFlowMark y))) ||
      (inFlow && (isFlowMark x || x = '?'))

/-- The characters up to the end of a plain scalar on this line. -/
def plainRun (inFlow : Bool) : List Char → List Char
  | [] => []
  | x :: rest => if endsPlain inFlow (x :: rest) then [] else x :: plainRun inFlow rest

/-- The further breaks after the first one; `none` before a document marker. -/
def plainBreaks : (fuel : Nat) → Cursor → Option (List Char) × Cursor
  | 0, c => (some [], c)
  | fuel + 1, c =>
    if c.peek = ' ' then plainBreaks fuel c.next
    else if isBreak c.peek then
      let (text, c) := c.lineBreak
      if c.isDocumentMarker then (none, c)
      else
        let (more, c) := plainBreaks fuel c
        (more.map (text ++ ·), c)
    else (some [], c)

/-- The space between two runs of a plain scalar: its text, empty where the scalar ends, whether
a line was broken, and the place after it. -/
def plainGap (c : Cursor) : List Char × Bool × Cursor :=
  let (spaces, c) := c.takeWhile (· == ' ')
  if isBreak c.peek then
    let (first, c) := c.lineBreak
    if c.isDocumentMarker then ([], true, c)
    else
      match plainBreaks (c.rest.length + 1) c with
      | (none, c) => ([], true, c)
      | (some more, c) =>
        let text :=
          if first ≠ ['\n'] then first ++ more else if more.isEmpty then [' '] else more
        (text, true, c)
  else (spaces, false, c)

/-- A plain scalar, whether its last gap broke a line (`none` without a gap), and the place after
it. Outside flow collections its lines are indented by at least `indent`. -/
def plainText (inFlow : Bool) (indent : Int) :
    (fuel : Nat) → (gap : List Char) → Option Bool → Cursor → List Char × Option Bool × Cursor
  | 0, _, broke, c => ([], broke, c)
  | fuel + 1, gap, broke, c =>
    let run := if c.peek = '#' then [] else plainRun inFlow c.rest
    if run.isEmpty then ([], broke, c)
    else
      let (space, broken, c) := plainGap (c.skip run.length)
      if space.isEmpty || c.peek = '#' || (!inFlow && c.column < indent) then
        (gap ++ run, some broken, c)
      else
        let (more, broke, c) := plainText inFlow indent fuel space (some broken) c
        (gap ++ run ++ more, broke, c)

/-- A plain scalar, and whether a key may follow because its last gap broke a line. -/
def plain (inFlow : Bool) (indent : Int) (c : Cursor) : List Char × Bool × Cursor :=
  let (text, broke, c) := plainText inFlow indent (c.rest.length + 1) [] none c
  (text, broke.getD false, c)

/-! ### Block scalars -/

/-- What becomes of the breaks at the end of a block scalar. -/
inductive Chomping
  | strip | clip | keep
deriving DecidableEq

def chomping? : Char → Option Chomping
  | '+' => some .keep
  | '-' => some .strip
  | _ => none

/-- The indentation that a digit asks for; zero is none. -/
def increment? (x : Char) : Option (Option Nat) :=
  if '0' ≤ x && x ≤ '9' then
    some (if x = '0' then none else some (x.toNat - 48))
  else none

/-- The indicators of a block scalar, in either order. -/
def blockIndicators (c : Cursor) : Result (Chomping × Option Nat × Cursor) := do
  let result ← match chomping? c.peek with
    | some ch =>
      let c := c.next
      match increment? c.peek with
      | some none => malformed
      | some (some n) => .ok (ch, some n, c.next)
      | none => .ok (ch, none, c)
    | none =>
      match increment? c.peek with
      | some none => malformed
      | some (some n) =>
        let c := c.next
        match chomping? c.peek with
        | some ch => .ok (ch, some n, c.next)
        | none => .ok (.clip, some n, c)
      | none => .ok (.clip, none, c)
  if isSpaceBreakOrEnd result.2.2.peek then .ok result else malformed

/-- Leading empty lines, and the greatest column reached in them. -/
def blockLead : (fuel : Nat) → (most : Nat) → Cursor → List Char × Nat × Cursor
  | 0, most, c => ([], most, c)
  | fuel + 1, most, c =>
    if c.peek = ' ' then
      let c := c.next
      blockLead fuel (max most c.column) c
    else if isBreak c.peek then
      let (text, c) := c.lineBreak
      let (more, most, c) := blockLead fuel most c
      (text ++ more, most, c)
    else ([], most, c)

/-- Past spaces up to column `indent`. -/
def indentTo (indent : Nat) (c : Cursor) : Cursor :=
  c.skip (min (c.rest.takeWhile (· == ' ')).length (indent - c.column))

/-- Empty lines of a block scalar that is indented by `indent`. -/
def blockBreaks (indent : Nat) : (fuel : Nat) → Cursor → List Char × Cursor
  | 0, c => ([], c)
  | fuel + 1, c =>
    let c := indentTo indent c
    if isBreak c.peek then
      let (text, c) := c.lineBreak
      let (more, c) := blockBreaks indent fuel c
      (text ++ more, c)
    else ([], c)

def isSpaceOrTab (x : Char) : Bool := x = ' ' || x = '\t'

/-- The lines of a block scalar. `breaks` are the empty lines before the current one; the result
ends with the last line break and the empty lines after it. -/
def blockLines (folded : Bool) (indent : Nat) :
    (fuel : Nat) → (breaks : List Char) → (last : List Char) → Cursor →
      List Char × List Char × List Char × Cursor
  | 0, breaks, last, c => ([], last, breaks, c)
  | fuel + 1, breaks, last, c =>
    if c.column = indent && c.peek ≠ atEnd then
      let flush := !isSpaceOrTab c.peek
      let (line, c) := c.takeWhile fun x => !isBreak x
      let (last, c) := c.lineBreak
      let (breaks', c) := blockBreaks indent (c.rest.length + 1) c
      if c.column = indent && c.peek ≠ atEnd then
        let join :=
          if folded && last = ['\n'] && flush && !isSpaceOrTab c.peek then
            if breaks'.isEmpty then [' '] else []
          else last
        let (more, last, rest, c) := blockLines folded indent fuel breaks' last c
        (breaks ++ line ++ join ++ more, last, rest, c)
      else (breaks ++ line, last, breaks', c)
    else ([], last, breaks, c)

/-- A block scalar from its indicator on, inside a block that is indented by `outer`. -/
def block (folded : Bool) (outer : Int) (c : Cursor) : Result (List Char × Cursor) := do
  let (chomp, increment, c) ← blockIndicators c.next
  let c ← orMalformed c.skipRestOfLine?
  let least := (max (outer + 1) 1).toNat
  let fuel := c.rest.length + 1
  let (indent, breaks, c) := match increment with
    | none =>
      let (breaks, most, c) := blockLead fuel 0 c
      (max least most, breaks, c)
    | some n =>
      let indent := least + n - 1
      let (breaks, c) := blockBreaks indent fuel c
      (indent, breaks, c)
  let (text, last, rest, c) := blockLines folded indent fuel breaks [] c
  let tail := match chomp with
    | .strip => []
    | .clip => last
    | .keep => last ++ rest
  .ok (text ++ tail, c)

end Scalar

end StateCheck.Yaml
