import StateCheck.Pattern.Syntax
import StateCheck.Text.Blank
import StateCheck.Text.Case
import StateCheck.Text.Digit
import StateCheck.Text.Letter

/-!
Matching by backtracking. A part of an expression is tried at a place and hands every place where
it may end to what follows it, in order of preference.
-/

namespace StateCheck.Pattern

open StateCheck.Text

/-! ### Single characters -/

def isAsciiSpace (c : Char) : Bool := c = ' ' || (9 ≤ c.toNat && c.toNat ≤ 13)

def isWordChar (ascii : Bool) (c : Char) : Bool :=
  c = '_' || if ascii then c.isAlphanum else isAlphanumeric c

def Class.holds (ascii : Bool) (c : Char) : Class → Bool
  | .digit => if ascii then c.isDigit else (digitValue? c).isSome
  | .space => if ascii then isAsciiSpace c else isBlank c
  | .word => isWordChar ascii c

/-- The characters that count as `c`, and the one that stands for all of them. -/
def variants (flags : Flags) (c : Char) : List Char × Char :=
  if !flags.ignoreCase then ([c], c)
  else if flags.ascii then ([c.toLower, c.toUpper], c.toLower)
  else (caseVariants c, lowerChar c)

/-- Whether one of the variants of a character is a member. -/
def Member.holds (flags : Flags) (vs : List Char × Char) : Member → Bool
  | .code n => vs.1.any fun v => v.toNat = n
  | .range low high => vs.1.any fun v => low ≤ v.toNat && v.toNat ≤ high
  | .kind c negated => c.holds flags.ascii vs.2 != negated

def Test.holds (flags : Flags) (c : Char) : Test → Bool
  | .any => flags.dotAll || c ≠ '\n'
  | .set negated ms =>
    let vs := variants flags c
    ms.any (Member.holds flags vs) != negated

/-! ### Places -/

/-- A place in a text: what stands before it, reversed, what follows, and what the groups have
matched so far. -/
structure Place where
  before : List Char
  after : List Char
  groups : List (Nat × List Char)

namespace Place

def next? (s : Place) (p : Char → Bool) : Option Place :=
  match s.after with
  | c :: cs => if p c then some { s with before := c :: s.before, after := cs } else none
  | [] => none

/-- The place `n` characters back. -/
def back? : Nat → Place → Option Place
  | 0, s => some s
  | n + 1, s =>
    match s.before with
    | c :: cs => back? n { s with before := cs, after := c :: s.after }
    | [] => none

/-- Whether a word begins or ends here; in an empty text none does. -/
def isBoundary (ascii : Bool) (s : Place) : Bool :=
  s.before.head?.any (isWordChar ascii) != s.after.head?.any (isWordChar ascii)

def isEmptyText (s : Place) : Bool := s.before.isEmpty && s.after.isEmpty

def holds (flags : Flags) (s : Place) : Anchor → Bool
  | .start => s.before.isEmpty
  | .finish => s.after.isEmpty
  | .lineStart => s.before.isEmpty || (flags.multiline && s.before.head? = some '\n')
  | .lineEnd =>
    s.after.isEmpty || s.after = ['\n'] || (flags.multiline && s.after.head? = some '\n')
  | .boundary => !s.isEmptyText && s.isBoundary flags.ascii
  | .noBoundary => !s.isEmptyText && !s.isBoundary flags.ascii

def capture (n : Nat) (start s : Place) : Place :=
  let text := s.before.take (s.before.length - start.before.length)
  { s with groups := (n, text.reverse) :: s.groups }

/-- Past a text equal to `cs` when compared as the flags say. -/
def match? (flags : Flags) (s : Place) : List Char → Option Place
  | [] => some s
  | c :: cs => do
    let s ← s.next? fun d => (variants flags c).2 = (variants flags d).2
    s.match? flags cs

end Place

/-- What follows a part of an expression: it finds a match from a place on, or none. -/
abbrev Rest := Place → Option Place

/-! ### Repetition -/

/-- Rounds of `body` that prefer to go on. A round may start where the one before it started only
while more rounds are required. -/
def greedy (body : Place → Rest → Option Place) (least : Nat) (most : Option Nat) :
    (fuel : Nat) → (count : Nat) → (last : Option Nat) → Place → Rest → Option Place
  | 0, _, _, _, _ => none
  | fuel + 1, count, last, s, k =>
    if count < least then body s fun s => greedy body least most fuel (count + 1) last s k
    else if most.all (count < ·) && last != some s.before.length then
      match body s fun t => greedy body least most fuel (count + 1) (some s.before.length) t k with
      | some t => some t
      | none => k s
    else k s

/-- Rounds of `body` that prefer to stop. -/
def reluctant (body : Place → Rest → Option Place) (least : Nat) (most : Option Nat) :
    (fuel : Nat) → (count : Nat) → (last : Option Nat) → Place → Rest → Option Place
  | 0, _, _, _, _ => none
  | fuel + 1, count, last, s, k =>
    if count < least then body s fun s => reluctant body least most fuel (count + 1) last s k
    else match k s with
      | some t => some t
      | none =>
        if most.all (count < ·) && last != some s.before.length then
          body s fun t => reluctant body least most fuel (count + 1) (some s.before.length) t k
        else none

/-- As many rounds of `body` as there are, each of them final. -/
def possessive (body : Place → Rest → Option Place) (least : Nat) (most : Option Nat) :
    (fuel : Nat) → (count : Nat) → (last : Option Nat) → Place → Option Place
  | 0, _, _, _ => none
  | fuel + 1, count, last, s =>
    if count < least then
      match body s some with
      | some t => possessive body least most fuel (count + 1) last t
      | none => none
    else if most.all (count < ·) && last != some s.before.length then
      match body s some with
      | some t => possessive body least most fuel (count + 1) (some s.before.length) t
      | none => some s
    else some s

mutual

/-- Matches a node at a place and what follows it after that. -/
def Node.run (s : Place) (k : Rest) : Node → Option Place
  | .one flags t => (s.next? fun c => t.holds flags c).bind k
  | .anchor flags a => if s.holds flags a then k s else none
  | .group none body => body.run s k
  | .group (some n) body => body.run s fun t => k (Place.capture n s t)
  | .sequence parts => runSequence s k parts
  | .choice branches => runChoice s k branches
  | .rounds mode least most body =>
    let fuel := least + s.after.length + 2
    let round (s : Place) (k : Rest) : Option Place := body.run s k
    match mode with
    | .greedy => greedy round least most fuel 0 none s k
    | .reluctant => reluctant round least most fuel 0 none s k
    | .possessive => (possessive round least most fuel 0 none s).bind k
  | .reference flags n =>
    match s.groups.lookup n with
    | some text => (s.match? flags text).bind k
    | none => none
  | .look behind negated body =>
    let found :=
      match s.back? (behind.getD 0) with
      | some start => body.run start some
      | none => none
    match found, negated with
    | some t, false => k { s with groups := t.groups }
    | none, true => k s
    | _, _ => none
  | .ifMatched n yes no => if (s.groups.lookup n).isSome then yes.run s k else no.run s k
  | .atomic body => (body.run s some).bind k

def runSequence (s : Place) (k : Rest) : List Node → Option Place
  | [] => k s
  | n :: ns => n.run s fun t => runSequence t k ns

def runChoice (s : Place) (k : Rest) : List Node → Option Place
  | [] => none
  | n :: ns =>
    match n.run s k with
    | some t => some t
    | none => runChoice s k ns

end

/-- The first match at or after a place of the text. -/
def search? (n : Node) (before : List Char) : List Char → Option Place
  | [] => n.run ⟨before, [], []⟩ some
  | c :: cs =>
    match n.run ⟨before, c :: cs, []⟩ some with
    | some t => some t
    | none => search? n (c :: before) cs

/-- Whether the expression matches somewhere in the text. -/
def Node.occursIn (n : Node) (cs : List Char) : Bool := (search? n [] cs).isSome

end StateCheck.Pattern
