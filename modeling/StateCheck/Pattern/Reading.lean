import StateCheck.Number.Reading
import StateCheck.Pattern.Syntax
import StateCheck.Text.Letter
import StateCheck.Text.Name

/-!
Reading regular expressions.
-/

namespace StateCheck.Pattern

open StateCheck.Text

inductive Error
  /-- The text is no regular expression. -/
  | invalid
  /-- It asks for two character sets at once. -/
  | conflictingFlags
  /-- It asks for too many rounds. -/
  | tooLarge
deriving DecidableEq

abbrev Read := Except Error

def invalid {α : Type} : Read α := .error .invalid

/-- A character, or a character after a backslash. -/
structure Symbol where
  escaped : Bool
  char : Char
deriving DecidableEq

/-- The symbols of a text, and whether a single backslash is left at its end. -/
def symbols : List Char → List Symbol × Bool
  | [] => ([], false)
  | ['\\'] => ([], true)
  | '\\' :: c :: cs =>
    let (ss, dangling) := symbols cs
    (⟨true, c⟩ :: ss, dangling)
  | c :: cs =>
    let (ss, dangling) := symbols cs
    (⟨false, c⟩ :: ss, dangling)

def plain (c : Char) : Symbol := ⟨false, c⟩

def Symbol.digitIn? (base : Nat) (s : Symbol) : Option Nat :=
  if s.escaped then none
  else match hexValue? s.char with
    | some d => if d < base then some d else none
    | none => none

/-- At most `count` digits, and what follows them. -/
def takeDigits (base : Nat) : (count : Nat) → List Symbol → List Nat × List Symbol
  | 0, ss => ([], ss)
  | _ + 1, [] => ([], [])
  | count + 1, s :: ss =>
    match s.digitIn? base with
    | some d =>
      let (ds, rest) := takeDigits base count ss
      (d :: ds, rest)
    | none => ([], s :: ss)

def number (base : Nat) (ds : List Nat) : Nat := Numeral.ofDigits base ds

/-- What has been read of an expression: the number of groups opened, the widths of those closed,
the names of groups, the groups there were when the reader went into a look behind, and the groups
that conditions refer to. -/
structure Progress where
  opened : Nat
  closed : List (Nat × Width)
  names : List (String × Nat)
  behind : Option Nat
  awaited : List Nat

def Progress.start : Progress := ⟨0, [], [], none, []⟩

/-- A group can be referred to once it is closed, from a look behind only if it was closed
before. -/
def Progress.checkReference (p : Progress) (n : Nat) : Read Unit :=
  match p.behind with
  | none => .ok ()
  | some limit => if (p.closed.lookup n).isSome ∧ n ≤ limit then .ok () else invalid

/-! ### Escapes -/

/-- Exactly `count` digits of a code point. -/
def codeOf (count : Nat) (ss : List Symbol) : Read (Nat × List Symbol) :=
  let (ds, rest) := takeDigits 16 count ss
  if ds.length < count then invalid
  else
    let n := number 16 ds
    if n < 0x110000 then .ok (n, rest) else invalid

def controlEscape? : Char → Option Nat
  | 'a' => some 7
  | 'b' => some 8
  | 'f' => some 12
  | 'n' => some 10
  | 'r' => some 13
  | 't' => some 9
  | 'v' => some 11
  | '\\' => some 92
  | _ => none

def classEscape? : Char → Option Member
  | 'd' => some (.kind .digit false)
  | 'D' => some (.kind .digit true)
  | 's' => some (.kind .space false)
  | 'S' => some (.kind .space true)
  | 'w' => some (.kind .word false)
  | 'W' => some (.kind .word true)
  | _ => none

def anchorEscape? : Char → Option Anchor
  | 'A' => some .start
  | 'b' => some .boundary
  | 'B' => some .noBoundary
  | 'Z' => some .finish
  | _ => none

/-- The symbols up to `stop` as characters, an escape among them with its backslash. -/
def textUntil (stop : Char) : List Symbol → Read (List Char × List Symbol)
  | [] => invalid
  | s :: ss =>
    if s = plain stop then .ok ([], ss)
    else do
      let (text, rest) ← textUntil stop ss
      .ok ((if s.escaped then ['\\', s.char] else [s.char]) ++ text, rest)

/-- A code point by the name of its character in braces. -/
def codeNamed : List Symbol → Read (Nat × List Symbol)
  | ⟨false, '\x7b'⟩ :: ss => do
    let (name, rest) ← textUntil '\x7d' ss
    match namedCode? name with
    | some n => .ok (n, rest)
    | none => invalid
  | _ => invalid

/-- A code point in hexadecimal digits or by name, or a character that is no letter and stands for
itself. -/
def codeEscape (c : Char) (ss : List Symbol) : Read (Nat × List Symbol) :=
  if c = 'x' then codeOf 2 ss
  else if c = 'u' then codeOf 4 ss
  else if c = 'U' then codeOf 8 ss
  else if c = 'N' then codeNamed ss
  else if c.isAlphanum then invalid
  else .ok (c.toNat, ss)

/-- An escape inside a set. -/
def setEscape (c : Char) (ss : List Symbol) : Read (Member × List Symbol) :=
  match controlEscape? c, classEscape? c with
  | some n, _ => .ok (.code n, ss)
  | none, some m => .ok (m, ss)
  | none, none =>
    match (plain c).digitIn? 8 with
    | some d =>
      let (ds, rest) := takeDigits 8 2 ss
      let n := number 8 (d :: ds)
      if n ≤ 255 then .ok (.code n, rest) else invalid
    | none => (codeEscape c ss).map fun (n, rest) => (.code n, rest)

def oneOf (flags : Flags) (m : Member) : Node := .one flags (.set false [m])

/-- A group by its number, or a code point in octal digits. -/
def digitEscape (flags : Flags) (p : Progress) (d : Nat) (ss : List Symbol) :
    Read (Node × List Symbol) := do
  let refer (n : Nat) (rest : List Symbol) : Read (Node × List Symbol) := do
    if (p.closed.lookup n).isSome then
      p.checkReference n
      .ok (.reference flags n, rest)
    else invalid
  match takeDigits 10 1 ss with
  | ([e], rest) =>
    match takeDigits 8 1 rest with
    | ([f], rest') =>
      if d < 8 ∧ e < 8 then
        let n := number 8 [d, e, f]
        if n ≤ 255 then .ok (oneOf flags (.code n), rest') else invalid
      else refer (d * 10 + e) rest
    | _ => refer (d * 10 + e) rest
  | _ => refer d ss

/-- An escape outside of sets. -/
def escape (flags : Flags) (p : Progress) (c : Char) (ss : List Symbol) :
    Read (Node × List Symbol) :=
  match anchorEscape? c, classEscape? c, controlEscape? c with
  | some a, _, _ => .ok (.anchor flags a, ss)
  | none, some m, _ => .ok (oneOf flags m, ss)
  | none, none, some n => .ok (oneOf flags (.code n), ss)
  | none, none, none =>
    if c = '0' then
      let (ds, rest) := takeDigits 8 2 ss
      .ok (oneOf flags (.code (number 8 ds)), rest)
    else match (plain c).digitIn? 10 with
      | some d => digitEscape flags p d ss
      | none => (codeEscape c ss).map fun (n, rest) => (oneOf flags (.code n), rest)

/-! ### Sets -/

def setMember (s : Symbol) (ss : List Symbol) : Read (Member × List Symbol) :=
  if s.escaped then setEscape s.char ss else .ok (.code s.char.toNat, ss)

/-- The members of a set up to its closing bracket, which is a member itself if it comes first. -/
def setMembers : (fuel : Nat) → (isFirst : Bool) → List Symbol → Read (List Member × List Symbol)
  | 0, _, _ => invalid
  | _, _, [] => invalid
  | fuel + 1, isFirst, s :: ss => do
    if s = plain ']' ∧ !isFirst then .ok ([], ss)
    else
      let (m, ss) ← setMember s ss
      match ss with
      | ⟨false, '-'⟩ :: ss =>
        match ss with
        | [] => invalid
        | ⟨false, ']'⟩ :: ss => .ok ([m, .code 45], ss)
        | t :: ss =>
          let (m', ss) ← setMember t ss
          match m, m' with
          | .code low, .code high =>
            if high < low then invalid
            else
              let (ms, ss) ← setMembers fuel false ss
              .ok (.range low high :: ms, ss)
          | _, _ => invalid
      | ss =>
        let (ms, ss) ← setMembers fuel false ss
        .ok (m :: ms, ss)

def setTest (ss : List Symbol) : Read (Test × List Symbol) :=
  let (negated, ss) := match ss with
    | ⟨false, '^'⟩ :: ss => (true, ss)
    | ss => (false, ss)
  (setMembers (ss.length + 1) true ss).map fun (ms, rest) => (.set negated ms, rest)

/-! ### Repetition -/

/-- No repetition asks for so many rounds. -/
def roundsLimit : Nat := 4294967295

def countOf (ds : List Nat) : Read (Option Nat) :=
  if ds.isEmpty then .ok none
  else
    let n := number 10 ds
    if n < roundsLimit then .ok (some n) else .error .tooLarge

/-- The bounds of a repetition in braces; `none` if the brace stands for itself. -/
def braces (ss : List Symbol) : Read (Option ((Nat × Option Nat) × List Symbol)) := do
  let (low, rest) := takeDigits 10 ss.length ss
  let (high, rest) := match rest with
    | ⟨false, ','⟩ :: rest => takeDigits 10 rest.length rest
    | rest => (low, rest)
  match ss, rest with
  | ⟨false, '\x7d'⟩ :: _, _ => .ok none
  | _, ⟨false, '\x7d'⟩ :: rest =>
    let least ← countOf low
    let most ← countOf high
    let least := least.getD 0
    if most.any (· < least) then invalid else .ok (some ((least, most), rest))
  | _, _ => .ok none

/-- The bounds of the repetition that a symbol begins. -/
def bounds? (s : Symbol) (ss : List Symbol) : Read (Option ((Nat × Option Nat) × List Symbol)) :=
  if s = plain '?' then .ok (some ((0, some 1), ss))
  else if s = plain '*' then .ok (some ((0, none), ss))
  else if s = plain '+' then .ok (some ((1, none), ss))
  else if s = plain '\x7b' then braces ss
  else .ok none

def mode (ss : List Symbol) : Mode × List Symbol :=
  match ss with
  | ⟨false, '?'⟩ :: ss => (.reluctant, ss)
  | ⟨false, '+'⟩ :: ss => (.possessive, ss)
  | ss => (.greedy, ss)

/-- The last part repeated; anchors and repetitions cannot be. -/
def repeatLast (mode : Mode) (b : Nat × Option Nat) : List Node → Read (List Node)
  | [] => invalid
  | .anchor .. :: _ | .rounds .. :: _ => invalid
  | n :: ns => .ok (.rounds mode b.1 b.2 n :: ns)

/-! ### Groups -/

def isNameStart (c : Char) : Bool := c = '_' || (isAlphanumeric c && (digitValue? c).isNone)

def isName : List Char → Bool
  | [] => false
  | c :: cs => isNameStart c && cs.all fun c => c = '_' || isAlphanumeric c

/-- A letter that sets a flag. -/
inductive FlagLetter
  | ignoreCase | multiline | dotAll | verbose | ascii | unicode
  /-- Nothing may be repeated; set for the whole expression only. -/
  | template
deriving DecidableEq

def flagLetter? : Symbol → Option FlagLetter
  | ⟨false, 'i'⟩ => some .ignoreCase
  | ⟨false, 'm'⟩ => some .multiline
  | ⟨false, 's'⟩ => some .dotAll
  | ⟨false, 'x'⟩ => some .verbose
  | ⟨false, 'a'⟩ => some .ascii
  | ⟨false, 'u'⟩ => some .unicode
  | ⟨false, 't'⟩ => some .template
  | _ => none

/-- The flag letters at the start of the symbols. -/
def flagLetters : List Symbol → List FlagLetter × List Symbol
  | [] => ([], [])
  | s :: ss =>
    match flagLetter? s with
    | some l =>
      let (ls, rest) := flagLetters ss
      (l :: ls, rest)
    | none => ([], s :: ss)

def turn (on : Bool) (flags : Flags) : FlagLetter → Flags
  | .ignoreCase => { flags with ignoreCase := on }
  | .multiline => { flags with multiline := on }
  | .dotAll => { flags with dotAll := on }
  | .verbose => { flags with verbose := on }
  | .ascii => { flags with ascii := on }
  | .unicode => { flags with ascii := !on }
  | .template => flags

/-- What a run of flag letters asks for: flags of the whole expression, or of a group. -/
inductive FlagRequest
  | whole (on : List FlagLetter)
  | inGroup (on off : List FlagLetter)

/-- Flag letters after the question mark of a group. -/
def flagRequest (ss : List Symbol) : Read (FlagRequest × List Symbol) := do
  let (on, rest) := flagLetters ss
  if on.contains .ascii && on.contains .unicode then invalid
  else match rest with
    | ⟨false, ')'⟩ :: rest => if on.isEmpty then invalid else .ok (.whole on, rest)
    | ⟨false, ':'⟩ :: rest =>
      if on.isEmpty || on.contains .template then invalid else .ok (.inGroup on [], rest)
    | ⟨false, '-'⟩ :: rest =>
      if on.contains .template then invalid
      else
        let (off, rest) := flagLetters rest
        match rest with
        | ⟨false, ':'⟩ :: rest =>
          if off.isEmpty || off.contains .ascii || off.contains .unicode ||
              off.contains .template || on.any off.contains then invalid
          else .ok (.inGroup on off, rest)
        | _ => invalid
    | _ => invalid

/-- Past a comment up to its closing parenthesis. -/
def skipComment : List Symbol → Read (List Symbol)
  | [] => invalid
  | s :: ss => if s = plain ')' then .ok ss else skipComment ss

def closing : List Symbol → Read (List Symbol)
  | ⟨false, ')'⟩ :: ss => .ok ss
  | _ => invalid

/-- How a group begins. -/
inductive Opening
  | comment
  | reference (name : String)
  | capture (name : Option String)
  | plain
  | atomic
  | look (ahead negated : Bool)
  | condition (name : List Char)
  | flags (r : FlagRequest)

/-- The opening of a group after its parenthesis. -/
def opening (ss : List Symbol) : Read (Opening × List Symbol) := do
  match ss with
  | ⟨false, '?'⟩ :: ss =>
    match ss with
    | ⟨false, 'P'⟩ :: ⟨false, '<'⟩ :: ss =>
      let (name, ss) ← textUntil '>' ss
      if isName name then .ok (.capture (some (String.ofList name)), ss) else invalid
    | ⟨false, 'P'⟩ :: ⟨false, '='⟩ :: ss =>
      let (name, ss) ← textUntil ')' ss
      if isName name then .ok (.reference (String.ofList name), ss) else invalid
    | ⟨false, ':'⟩ :: ss => .ok (.plain, ss)
    | ⟨false, '#'⟩ :: ss => .ok (.comment, ss)
    | ⟨false, '='⟩ :: ss => .ok (.look true false, ss)
    | ⟨false, '!'⟩ :: ss => .ok (.look true true, ss)
    | ⟨false, '<'⟩ :: ⟨false, '='⟩ :: ss => .ok (.look false false, ss)
    | ⟨false, '<'⟩ :: ⟨false, '!'⟩ :: ss => .ok (.look false true, ss)
    | ⟨false, '('⟩ :: ss =>
      let (name, ss) ← textUntil ')' ss
      .ok (.condition name, ss)
    | ⟨false, '>'⟩ :: ss => .ok (.atomic, ss)
    | ss => (flagRequest ss).map fun (r, ss) => (.flags r, ss)
  | ss => .ok (.capture none, ss)

/-- The group that a condition names. -/
def conditionGroup (p : Progress) (name : List Char) : Read Nat :=
  if isName name then
    match p.names.lookup (String.ofList name) with
    | some n => .ok n
    | none => invalid
  else match Numeral.readInt? name with
    | some i => if 0 < i ∧ i < 1073741823 then .ok i.toNat else invalid
    | none => invalid

def openGroup (p : Progress) (name : Option String) : Read (Nat × Progress) :=
  let n := p.opened + 1
  match name with
  | none => .ok (n, { p with opened := n })
  | some s =>
    if (p.names.lookup s).isSome then invalid
    else .ok (n, { p with opened := n, names := (s, n) :: p.names })

/-- White space that an expression with comments passes over. -/
def isLayout (s : Symbol) : Bool :=
  !s.escaped && (s.char = ' ' || (9 ≤ s.char.toNat && s.char.toNat ≤ 13))

/-- Past white space and comments up to the ends of their lines. -/
def skipLayout : (inComment : Bool) → List Symbol → List Symbol
  | _, [] => []
  | true, s :: ss => skipLayout (s ≠ plain '\n') ss
  | false, s :: ss =>
    if isLayout s then skipLayout false ss
    else if s = plain '#' then skipLayout true ss
    else s :: ss

/-- An expression that has no width of its own. -/
def emptyNode : Node := .sequence []

mutual

/-- Branches between bars, up to a closing parenthesis or the end. -/
def readChoice : (fuel : Nat) → Flags → Progress → List Symbol →
    Read (Node × Progress × List Symbol)
  | 0, _, _, _ => invalid
  | fuel + 1, flags, p, ss => do
    let (n, p, ss) ← readSequence fuel flags p [] ss
    let (ns, p, ss) ← readBranches fuel flags p ss
    .ok (if ns.isEmpty then n else .choice (n :: ns), p, ss)

def readBranches : (fuel : Nat) → Flags → Progress → List Symbol →
    Read (List Node × Progress × List Symbol)
  | 0, _, _, _ => invalid
  | fuel + 1, flags, p, ss =>
    match ss with
    | ⟨false, '|'⟩ :: ss => do
      let (n, p, ss) ← readSequence fuel flags p [] ss
      let (ns, p, ss) ← readBranches fuel flags p ss
      .ok (n :: ns, p, ss)
    | ss => .ok ([], p, ss)

/-- The parts of a branch, those read before in reverse. -/
def readSequence : (fuel : Nat) → Flags → Progress → List Node → List Symbol →
    Read (Node × Progress × List Symbol)
  | 0, _, _, _, _ => invalid
  | fuel + 1, flags, p, done, ss => do
    let ss := if flags.verbose then skipLayout false ss else ss
    match ss with
    | [] | ⟨false, '|'⟩ :: _ | ⟨false, ')'⟩ :: _ => .ok (.sequence done.reverse, p, ss)
    | s :: ss =>
      if s.escaped then
        let (n, ss) ← escape flags p s.char ss
        readSequence fuel flags p (n :: done) ss
      else if s.char = '[' then
        let (t, ss) ← setTest ss
        readSequence fuel flags p (.one flags t :: done) ss
      else if s.char = '.' then readSequence fuel flags p (.one flags .any :: done) ss
      else if s.char = '^' then readSequence fuel flags p (.anchor flags .lineStart :: done) ss
      else if s.char = '$' then readSequence fuel flags p (.anchor flags .lineEnd :: done) ss
      else if s.char = '(' then
        let (n, p, ss) ← readGroup fuel flags p ss
        readSequence fuel flags p (n.toList ++ done) ss
      else
        match ← bounds? s ss with
        | some (b, ss) =>
          let (m, ss) := mode ss
          let done ← repeatLast m b done
          readSequence fuel flags p done ss
        | none => readSequence fuel flags p (oneOf flags (.code s.char.toNat) :: done) ss

/-- A group after its opening parenthesis; a comment is no part at all. -/
def readGroup : (fuel : Nat) → Flags → Progress → List Symbol →
    Read (Option Node × Progress × List Symbol)
  | 0, _, _, _ => invalid
  | fuel + 1, flags, p, ss => do
    let (o, ss) ← opening ss
    match o with
    | .comment =>
      let ss ← skipComment ss
      .ok (none, p, ss)
    | .reference name =>
      match p.names.lookup name with
      | none => invalid
      | some n =>
        if (p.closed.lookup n).isNone then invalid
        else
          p.checkReference n
          .ok (some (.reference flags n), p, ss)
    | .look ahead negated =>
      let outer := p.behind
      let inner := if ahead then p else { p with behind := some (outer.getD p.opened) }
      let (n, p, ss) ← readChoice fuel flags inner ss
      let p := if ahead then p else { p with behind := outer }
      let ss ← closing ss
      if ahead then .ok (some (.look none negated n), p, ss)
      else match n.width p.closed with
        | (low, some high) =>
          if low = high then .ok (some (.look (some low) negated n), p, ss) else invalid
        | (_, none) => invalid
    | .condition name =>
      let n ← conditionGroup p name
      let p := { p with awaited := n :: p.awaited }
      p.checkReference n
      let (yes, p, ss) ← readSequence fuel flags p [] ss
      match ss with
      | ⟨false, '|'⟩ :: ss =>
        let (no, p, ss) ← readSequence fuel flags p [] ss
        let ss ← closing ss
        .ok (some (.ifMatched n yes no), p, ss)
      | ss =>
        let ss ← closing ss
        .ok (some (.ifMatched n yes emptyNode), p, ss)
    | .flags (.whole _) => invalid
    | .flags (.inGroup on off) =>
      let flags := off.foldl (turn false) (on.foldl (turn true) flags)
      let (n, p, ss) ← readChoice fuel flags p ss
      let ss ← closing ss
      .ok (some (.group none n), p, ss)
    | .plain =>
      let (n, p, ss) ← readChoice fuel flags p ss
      let ss ← closing ss
      .ok (some (.group none n), p, ss)
    | .atomic =>
      let (n, p, ss) ← readChoice fuel flags p ss
      let ss ← closing ss
      .ok (some (.atomic n), p, ss)
    | .capture name =>
      let (g, p) ← openGroup p name
      let (n, p, ss) ← readChoice fuel flags p ss
      let ss ← closing ss
      .ok (some (.group (some g) n), { p with closed := (g, n.width p.closed) :: p.closed }, ss)

end

/-- Flags of the whole expression, comments and white space in front of everything else, with the
flag letters read so far. -/
def prelude : (fuel : Nat) → List FlagLetter → List Symbol → Read (List FlagLetter × List Symbol)
  | 0, _, _ => invalid
  | fuel + 1, on, ss =>
    let ss := if on.contains .verbose then skipLayout false ss else ss
    match ss with
    | ⟨false, '('⟩ :: ⟨false, '?'⟩ :: rest =>
      match rest with
      | ⟨false, '#'⟩ :: rest => do
        let rest ← skipComment rest
        prelude fuel on rest
      | rest =>
        match flagRequest rest with
        | .ok (.whole more, rest) => prelude fuel (on ++ more) rest
        | _ => .ok (on, ss)
    | ss => .ok (on, ss)

def readSymbols (ss : List Symbol) : Read Node := do
  let (on, rest) ← prelude (ss.length + 1) [] ss
  let flags := on.foldl (turn true) .none
  let fuel := 2 * ss.length + 4
  let (n, p, rest) ← readChoice fuel { flags with ascii := on.contains .ascii } .start rest
  if on.contains .ascii && on.contains .unicode then .error .conflictingFlags
  else if !rest.isEmpty || p.awaited.any (p.opened < ·) then invalid
  else if on.contains .template && n.repeats then invalid
  else .ok n

/-- The expression that a text spells. A backslash at the end is noticed while the symbol in front
of it is read, so that what was read before is looked at first. -/
def read (cs : List Char) : Read Node :=
  let (ss, dangling) := symbols cs
  if dangling then
    match readSymbols ss.dropLast with
    | .error .tooLarge => .error .tooLarge
    | _ => invalid
  else readSymbols ss

end StateCheck.Pattern
