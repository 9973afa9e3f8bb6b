import StateCheck.Yaml.Tree

/-!
Nodes: every scalar has a tag, and every alias stands for the node it names.
-/

namespace StateCheck.Yaml

inductive Tag
  | null | bool | int | float | binary | timestamp | string
  | sequence | mapping | set | omap | pairs
  /-- The key `<<`, whose value is merged into the mapping around it. -/
  | merge
  /-- The key `=`, the value of a mapping that stands for a scalar. -/
  | value
  | unknown
deriving DecidableEq

namespace Tag

def ofName? : String → Option Tag
  | "null" => some null
  | "bool" => some bool
  | "int" => some int
  | "float" => some float
  | "binary" => some binary
  | "timestamp" => some timestamp
  | "str" => some string
  | "seq" => some sequence
  | "map" => some mapping
  | "set" => some set
  | "omap" => some omap
  | "pairs" => some pairs
  | "merge" => some merge
  | "value" => some value
  | _ => none

def ofText (cs : List Char) : Tag :=
  if Tree.standardTag.isPrefixOf cs then
    (ofName? (String.ofList (cs.drop Tree.standardTag.length))).getD unknown
  else unknown

/-! ### The tag that a plain scalar has by its text alone -/

def isDigit (c : Char) : Bool := '0' ≤ c && c ≤ '9'

def isDigitOrLine (c : Char) : Bool := isDigit c || c = '_'

def dropSign : List Char → List Char
  | '-' :: cs | '+' :: cs => cs
  | cs => cs

def isBool (cs : List Char) : Bool :=
  ["yes", "Yes", "YES", "no", "No", "NO", "true", "True", "TRUE", "false", "False", "FALSE",
    "on", "On", "ON", "off", "Off", "OFF"].contains (String.ofList cs)

def isNull (cs : List Char) : Bool :=
  ["", "~", "null", "Null", "NULL"].contains (String.ofList cs)

/-- One or more parts of a number in base sixty, each with its colon. -/
def isSixties : List Char → Bool
  | ':' :: a :: b :: cs =>
    if isDigit b then '0' ≤ a && a ≤ '5' && (cs.isEmpty || isSixties cs)
    else isDigit a && isSixties (b :: cs)
  | [':', a] => isDigit a
  | _ => false

def isInt (cs : List Char) : Bool :=
  match dropSign cs with
  | '0' :: 'b' :: c :: r => (c :: r).all fun x => x = '0' || x = '1' || x = '_'
  | '0' :: 'x' :: c :: r => (c :: r).all fun x => (Text.hexValue? x).isSome || x = '_'
  | '0' :: r => r.all fun x => ('0' ≤ x && x ≤ '7') || x = '_'
  | c :: r =>
    isDigit c &&
      match r.dropWhile isDigitOrLine with
      | [] => true
      | rest => isSixties rest
  | [] => false

/-- Nothing, or a power of ten with a sign. -/
def isPower : List Char → Bool
  | [] => true
  | e :: s :: cs =>
    (e = 'e' || e = 'E') && (s = '-' || s = '+') && !cs.isEmpty && cs.all isDigit
  | _ => false

/-- The text from the first point on and the text before it. -/
def cutPoint (cs : List Char) : List Char × List Char :=
  (cs.takeWhile (· ≠ '.'), cs.dropWhile (· ≠ '.'))

def isFloat (cs : List Char) : Bool :=
  let unsigned := dropSign cs
  if unsigned = ".inf".toList || unsigned = ".Inf".toList || unsigned = ".INF".toList then true
  else if cs = ".nan".toList || cs = ".NaN".toList || cs = ".NAN".toList then true
  else
    match cutPoint unsigned with
    | (c :: r, _ :: places) =>
      isDigit c &&
        match r.dropWhile isDigitOrLine with
        | [] => isPower (places.dropWhile isDigitOrLine)
        | sixties => isSixties sixties && places.all isDigitOrLine
    | ([], _ :: c :: places) =>
      unsigned.length = cs.length && isDigit c && isPower (places.dropWhile isDigitOrLine)
    | _ => false

/-- The parts of a timestamp as written. -/
structure Stamp where
  year : List Char
  month : List Char
  day : List Char
  time : Option (List Char × List Char × List Char)
  fraction : List Char
  /-- The sign of the zone, if there is a zone, with its hours and minutes; the zone `Z` has no
  sign. -/
  zone : Option (Option Bool × List Char × List Char)

/-- At least `least` and at most `most` digits. -/
def takeDigits (least most : Nat) (cs : List Char) : Option (List Char × List Char) :=
  let ds := (cs.take most).takeWhile isDigit
  if ds.length < least then none else some (ds, cs.drop ds.length)

def takeChar (x : Char) : List Char → Option (List Char)
  | c :: cs => if c = x then some cs else none
  | [] => none

def isSpaceTab (c : Char) : Bool := c = ' ' || c = '\t'

def zone? (cs : List Char) : Option (Option (Option Bool × List Char × List Char)) :=
  match cs.dropWhile isSpaceTab with
  | [] => if cs.isEmpty then some none else none
  | ['Z'] => some (some (none, [], []))
  | s :: cs =>
    if s = '-' || s = '+' then do
      let (hours, cs) ← takeDigits 1 2 cs
      match cs with
      | [] => some (some (some (s = '-'), hours, []))
      | ':' :: cs =>
        let (minutes, cs) ← takeDigits 2 2 cs
        if cs.isEmpty then some (some (some (s = '-'), hours, minutes)) else none
      | _ => none
    else none

/-- The parts of a date, or of a date with a time of day. -/
def stamp? (cs : List Char) : Option Stamp := do
  let (year, cs) ← takeDigits 4 4 cs
  let cs ← takeChar '-' cs
  let (month, cs) ← takeDigits 1 2 cs
  let cs ← takeChar '-' cs
  let (day, cs) ← takeDigits 1 2 cs
  match cs with
  | [] => some ⟨year, month, day, none, [], none⟩
  | c :: rest =>
    let cs ←
      if c = 'T' || c = 't' then some rest
      else if isSpaceTab c then some (rest.dropWhile isSpaceTab)
      else none
    let (hour, cs) ← takeDigits 1 2 cs
    let cs ← takeChar ':' cs
    let (minute, cs) ← takeDigits 2 2 cs
    let cs ← takeChar ':' cs
    let (second, cs) ← takeDigits 2 2 cs
    let (fraction, cs) := match cs with
      | '.' :: cs => (cs.takeWhile isDigit, cs.dropWhile isDigit)
      | cs => ([], cs)
    let zone ← zone? cs
    some ⟨year, month, day, some (hour, minute, second), fraction, zone⟩

/-- Whether a plain scalar is a timestamp: a date alone has two digits for month and day. -/
def isTimestamp (cs : List Char) : Bool :=
  match stamp? cs with
  | some s => s.time.isSome || (s.month.length = 2 && s.day.length = 2)
  | none => false

/-- The tag of a plain scalar without a tag of its own. -/
def ofPlain (cs : List Char) : Tag :=
  if isBool cs then bool
  else if isFloat cs then float
  else if isInt cs then int
  else if cs = ['<', '<'] then merge
  else if isNull cs then null
  else if isTimestamp cs then timestamp
  else if cs = ['='] then value
  else string

end Tag

inductive Node
  | scalar (tag : Tag) (text : List Char)
  | sequence (tag : Tag) (items : List Node)
  | mapping (tag : Tag) (pairs : List (Node × Node))
  /-- An alias inside the very node that it names, a mapping or a sequence. -/
  | enclosing (isMapping : Bool)

namespace Node

/-- What the anchors read so far name; `none` for a node that is still being read. -/
abbrev Anchors := List (List Char × Bool × Option Node)

def tagOr (m : Mark) (default : Tag) : Tag :=
  match m.tag with
  | none => default
  | some t => if t = ['!'] then default else Tag.ofText t

/-- An anchor names one node only. -/
def declare (m : Mark) (isMapping : Bool) (env : Anchors) : Result Anchors :=
  match m.anchor with
  | none => .ok env
  | some n => if (env.lookup n).isSome then malformed else .ok ((n, isMapping, none) :: env)

def complete (m : Mark) (isMapping : Bool) (node : Node) (env : Anchors) : Anchors :=
  match m.anchor with
  | none => env
  | some n => (n, isMapping, some node) :: env

mutual

def ofTree (env : Anchors) : Tree → Result (Node × Anchors)
  | .alias n =>
    match env.lookup n with
    | some (_, some node) => .ok (node, env)
    | some (isMapping, none) => .ok (enclosing isMapping, env)
    | none => malformed
  | .scalar m isPlain text => do
    let env ← declare m false env
    let node := scalar (tagOr m (if isPlain then Tag.ofPlain text else .string)) text
    .ok (node, complete m false node env)
  | .sequence m items => do
    let env ← declare m false env
    let (items, env) ← ofItems env items
    let node := sequence (tagOr m .sequence) items
    .ok (node, complete m false node env)
  | .mapping m pairs => do
    let env ← declare m true env
    let (pairs, env) ← ofPairs env pairs
    let node := mapping (tagOr m .mapping) pairs
    .ok (node, complete m true node env)

def ofItems (env : Anchors) : List Tree → Result (List Node × Anchors)
  | [] => .ok ([], env)
  | t :: ts => do
    let (n, env) ← ofTree env t
    let (ns, env) ← ofItems env ts
    .ok (n :: ns, env)

def ofPairs (env : Anchors) : List (Tree × Tree) → Result (List (Node × Node) × Anchors)
  | [] => .ok ([], env)
  | (k, v) :: ts => do
    let (k, env) ← ofTree env k
    let (v, env) ← ofTree env v
    let (ns, env) ← ofPairs env ts
    .ok ((k, v) :: ns, env)

end

/-- The node of a text, or nothing if the text is empty. -/
def read (cs : List Char) : Result (Option Node) := do
  let ts ← Token.scan cs
  match ← Tree.ofTokens? ts with
  | none => .ok none
  | some t =>
    let (n, _) ← ofTree [] t
    .ok (some n)

end Node

end StateCheck.Yaml
