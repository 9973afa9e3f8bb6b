import StateCheck.Yaml.Token

/-!
The structure that the tokens of a document spell out, with its anchors and aliases as written.
-/

namespace StateCheck.Yaml

/-- Anchor and tag in front of a node. -/
structure Mark where
  anchor : Option (List Char)
  tag : Option (List Char)

inductive Tree
  | alias (name : List Char)
  | scalar (mark : Mark) (isPlain : Bool) (text : List Char)
  | sequence (mark : Mark) (items : List Tree)
  | mapping (mark : Mark) (pairs : List (Tree × Tree))

namespace Tree

def Mark.none : Mark := ⟨Option.none, Option.none⟩

/-- A node that is left out. -/
def absent : Tree := .scalar Mark.none true []

abbrev Handles := List (List Char × List Char)

def standardTag : List Char := "tag:yaml.org,2002:".toList

/-- Handles that every document knows. -/
def standardHandles : Handles := [(['!'], ['!']), (['!', '!'], standardTag)]

def fullTag (handles : Handles) : Option (List Char) → List Char → Result (List Char)
  | none, suffix => .ok suffix
  | some handle, suffix => do
    let start ← orMalformed (handles.lookup handle)
    .ok (start ++ suffix)

/-- The anchor and tag in front of a node, in either order. -/
def mark (handles : Handles) : List Token → Result (Mark × List Token)
  | .anchor n :: .tag h s :: ts => do
    let t ← fullTag handles h s
    .ok (⟨some n, some t⟩, ts)
  | .tag h s :: .anchor n :: ts => do
    let t ← fullTag handles h s
    .ok (⟨some n, some t⟩, ts)
  | .anchor n :: ts => .ok (⟨some n, none⟩, ts)
  | .tag h s :: ts => do
    let t ← fullTag handles h s
    .ok (⟨none, some t⟩, ts)
  | ts => .ok (⟨none, none⟩, ts)

/-- Where a node stands: in a flow collection, in a block, or as the key or value of a block
mapping, where the entries of a sequence need no indentation. -/
inductive Place
  | flow | block | member
deriving DecidableEq

mutual

def node (handles : Handles) (place : Place) :
    (fuel : Nat) → List Token → Result (Tree × List Token)
  | 0, _ => malformed
  | fuel + 1, ts =>
    match ts with
    | .alias n :: ts => .ok (.alias n, ts)
    | ts => do
      let (m, ts) ← mark handles ts
      match ts with
      | .scalar isPlain text :: rest =>
        .ok (.scalar m ((isPlain && m.tag.isNone) || m.tag == some ['!']) text, rest)
      | .flowSequenceStart :: rest => do
        let (items, rest) ← flowItems handles true fuel rest
        .ok (.sequence m items, rest)
      | .flowMappingStart :: rest => do
        let (pairs, rest) ← flowPairs handles true fuel rest
        .ok (.mapping m pairs, rest)
      | .blockEntry :: _ =>
        if place = .member then do
          let (items, rest) ← looseItems handles fuel ts
          .ok (.sequence m items, rest)
        else emptyNode m ts
      | .blockSequenceStart :: rest =>
        if place = .flow then emptyNode m ts
        else do
          let (items, rest) ← blockItems handles fuel rest
          .ok (.sequence m items, rest)
      | .blockMappingStart :: rest =>
        if place = .flow then emptyNode m ts
        else do
          let (pairs, rest) ← blockPairs handles fuel rest
          .ok (.mapping m pairs, rest)
      | ts => emptyNode m ts
where
  /-- Only an anchor or a tag can stand for an empty node. -/
  emptyNode (m : Mark) (ts : List Token) : Result (Tree × List Token) :=
    if m.anchor.isSome || m.tag.isSome then
      .ok (.scalar m (m.tag.isNone || m.tag == some ['!']) [], ts)
    else malformed

/-- The entries of an indented sequence. -/
def blockItems (handles : Handles) : (fuel : Nat) → List Token → Result (List Tree × List Token)
  | 0, _ => malformed
  | fuel + 1, ts =>
    match ts with
    | .blockEntry :: ts => do
      let (item, ts) ← match ts with
        | .blockEntry :: _ | .blockEnd :: _ => .ok (absent, ts)
        | ts => node handles .block fuel ts
      let (items, ts) ← blockItems handles fuel ts
      .ok (item :: items, ts)
    | .blockEnd :: ts => .ok ([], ts)
    | _ => malformed

/-- The entries of a sequence at the indentation of the mapping around it. -/
def looseItems (handles : Handles) : (fuel : Nat) → List Token → Result (List Tree × List Token)
  | 0, _ => malformed
  | fuel + 1, ts =>
    match ts with
    | .blockEntry :: ts => do
      let (item, ts) ← match ts with
        | .blockEntry :: _ | .key :: _ | .value :: _ | .blockEnd :: _ => .ok (absent, ts)
        | ts => node handles .block fuel ts
      let (items, ts) ← looseItems handles fuel ts
      .ok (item :: items, ts)
    | ts => .ok ([], ts)

/-- A key or value of a block mapping, which may be left out. -/
def member (handles : Handles) : (fuel : Nat) → List Token → Result (Tree × List Token)
  | 0, _ => malformed
  | fuel + 1, ts =>
    match ts with
    | .key :: _ | .value :: _ | .blockEnd :: _ => .ok (absent, ts)
    | ts => node handles .member fuel ts

def blockPairs (handles : Handles) :
    (fuel : Nat) → List Token → Result (List (Tree × Tree) × List Token)
  | 0, _ => malformed
  | fuel + 1, ts => do
    let continueWith (k : Tree) (ts : List Token) : Result (List (Tree × Tree) × List Token) := do
      let (v, ts) ← match ts with
        | .value :: ts => member handles fuel ts
        | ts => .ok (absent, ts)
      let (pairs, ts) ← blockPairs handles fuel ts
      .ok ((k, v) :: pairs, ts)
    match ts with
    | .key :: ts => do
      let (k, ts) ← member handles fuel ts
      continueWith k ts
    | .value :: _ => malformed
    | .blockEnd :: ts => .ok ([], ts)
    | _ => malformed

/-- The entries of a sequence in brackets; a pair in it is a mapping of its own. -/
def flowItems (handles : Handles) (isFirst : Bool) :
    (fuel : Nat) → List Token → Result (List Tree × List Token)
  | 0, _ => malformed
  | fuel + 1, ts => do
    let ts ← match ts with
      | .flowSequenceEnd :: _ => .ok ts
      | .flowEntry :: rest => if isFirst then .ok ts else .ok rest
      | ts => if isFirst then .ok ts else malformed
    match ts with
    | .flowSequenceEnd :: ts => .ok ([], ts)
    | .key :: ts => do
      let (k, ts) ← match ts with
        | .value :: _ | .flowEntry :: _ | .flowSequenceEnd :: _ => .ok (absent, ts)
        | ts => node handles .flow fuel ts
      let (v, ts) ← match ts with
        | .value :: .flowEntry :: _ | .value :: .flowSequenceEnd :: _ => .ok (absent, ts.drop 1)
        | .value :: ts => node handles .flow fuel ts
        | ts => .ok (absent, ts)
      let (items, ts) ← flowItems handles false fuel ts
      .ok (.mapping Mark.none [(k, v)] :: items, ts)
    | ts => do
      let (item, ts) ← node handles .flow fuel ts
      let (items, ts) ← flowItems handles false fuel ts
      .ok (item :: items, ts)

def flowPairs (handles : Handles) (isFirst : Bool) :
    (fuel : Nat) → List Token → Result (List (Tree × Tree) × List Token)
  | 0, _ => malformed
  | fuel + 1, ts => do
    let ts ← match ts with
      | .flowMappingEnd :: _ => .ok ts
      | .flowEntry :: rest => if isFirst then .ok ts else .ok rest
      | ts => if isFirst then .ok ts else malformed
    match ts with
    | .flowMappingEnd :: ts => .ok ([], ts)
    | .key :: ts => do
      let (k, ts) ← match ts with
        | .value :: _ | .flowEntry :: _ | .flowMappingEnd :: _ => .ok (absent, ts)
        | ts => node handles .flow fuel ts
      let (v, ts) ← match ts with
        | .value :: .flowEntry :: _ | .value :: .flowMappingEnd :: _ => .ok (absent, ts.drop 1)
        | .value :: ts => node handles .flow fuel ts
        | ts => .ok (absent, ts)
      let (pairs, ts) ← flowPairs handles false fuel ts
      .ok ((k, v) :: pairs, ts)
    | ts => do
      let (k, ts) ← node handles .flow fuel ts
      let (pairs, ts) ← flowPairs handles false fuel ts
      .ok ((k, absent) :: pairs, ts)

end

/-- The directives in front of a document: one version at most, of the first generation, and one
meaning for each handle. -/
def directives (version : Bool) (handles : Handles) :
    List Token → Result (Handles × List Token)
  | .directive (.version major) :: ts =>
    if version || major ≠ 1 then malformed else directives true handles ts
  | .directive (.tag handle start) :: ts =>
    if (handles.lookup handle).isSome then malformed
    else directives version (handles ++ [(handle, start)]) ts
  | .directive .other :: ts => directives version handles ts
  | ts => .ok (handles ++ standardHandles, ts)

def skipEnds : List Token → List Token
  | .documentEnd :: ts => skipEnds ts
  | ts => ts

/-- The content of a document that has an explicit start. -/
def content (handles : Handles) (fuel : Nat) (ts : List Token) : Result (Tree × List Token) :=
  match ts with
  | [] | .directive _ :: _ | .documentStart :: _ | .documentEnd :: _ => .ok (absent, ts)
  | ts => node handles .block fuel ts

/-- The single document of a text, or nothing if the text is empty. -/
def ofTokens? (ts : List Token) : Result (Option Tree) := do
  let fuel := 2 * ts.length + 2
  let finish (r : Tree × List Token) : Result (Option Tree) :=
    match skipEnds r.2 with
    | [] => .ok (some r.1)
    | _ => malformed
  match ts with
  | [] => .ok none
  | .directive _ :: _ | .documentStart :: _ => do
    let (handles, ts) ← directives false [] ts
    match ts with
    | .documentStart :: ts => do
      let r ← content handles fuel ts
      finish r
    | _ => malformed
  | ts => do
    let r ← node standardHandles .block fuel ts
    finish r

end Tree

end StateCheck.Yaml
