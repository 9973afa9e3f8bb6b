import StateCheck.Failure
import StateCheck.Path.Basic

/-!
Reading paths. A text is cut at the slashes outside of brackets, and every piece is a name
followed by keys in brackets.
-/

namespace StateCheck.Path

/-- Why a text is no path. -/
inductive Error
  | unbalanced (path : String)
  | unclosed (path : String)
  | emptyElement
  | noName (segment : String)
  | textAfterKeys (segment text : String)
  | unclosedKey (segment : String)
  | noValue (segment group : String)
  | emptyKey (segment group : String)
  | repeatedKey (segment key : String)
deriving DecidableEq

namespace Error

def message : Error → String
  | unbalanced _ => "Unbalanced ']' in path"
  | unclosed _ => "Unclosed '[' in path"
  | emptyElement => "Empty path element"
  | noName _ => "Path element has keys but no name"
  | textAfterKeys .. => "Unexpected text after key group"
  | unclosedKey _ => "Unclosed bracket in path segment"
  | noValue .. => "Invalid key-value pair"
  | emptyKey .. => "Empty key name"
  | repeatedKey _ key => "Duplicate key '" ++ key ++ "'"

def details : Error → List (String × String)
  | unbalanced path | unclosed path => [("path", path)]
  | emptyElement => []
  | noName segment | unclosedKey segment | repeatedKey segment _ => [("segment", segment)]
  | textAfterKeys segment text => [("segment", segment), ("text", text)]
  | noValue segment group | emptyKey segment group => [("segment", segment), ("group", group)]

def failure (e : Error) : Failure := .of .malformedPath e.message e.details

end Error

/-! ### Segments -/

/-- How the brackets of a text fail to match. -/
inductive BracketFault
  | unbalanced
  | unclosed
deriving DecidableEq

/-- The pieces with `c` in front of the first one. -/
def pushChar (c : Char) : List (List Char) → List (List Char)
  | [] => [[c]]
  | s :: ss => (c :: s) :: ss

/-- The pieces between the slashes that stand outside of all brackets, empty pieces included;
`depth` brackets are open at the start. -/
def pieces : (depth : Nat) → List Char → Except BracketFault (List (List Char))
  | 0, [] => .ok [[]]
  | _ + 1, [] => .error .unclosed
  | depth, '[' :: cs => (pieces (depth + 1) cs).map (pushChar '[')
  | 0, ']' :: _ => .error .unbalanced
  | depth + 1, ']' :: cs => (pieces depth cs).map (pushChar ']')
  | 0, '/' :: cs => (pieces 0 cs).map ([] :: ·)
  | depth, c :: cs => (pieces depth cs).map (pushChar c)

/-- The segments of a path: its pieces without the empty ones. -/
def segments (cs : List Char) : Except BracketFault (List (List Char)) :=
  (pieces 0 cs).map fun ps => ps.filter fun p => !p.isEmpty

def tokenize (path : String) : Except Error (List String) :=
  match segments path.toList with
  | .ok ss => .ok (ss.map String.ofList)
  | .error .unbalanced => .error (.unbalanced path)
  | .error .unclosed => .error (.unclosed path)

/-! ### Elements -/

theorem length_of_cutAt {d : Char} {cs before after : List Char}
    (h : Text.cutAt d cs = (before, some after)) : after.length < cs.length := by
  induction cs generalizing before after with
  | nil => simp [Text.cutAt] at h
  | cons c cs ih =>
    simp only [Text.cutAt] at h
    split at h
    · simp only [Prod.mk.injEq, Option.some.injEq] at h
      simp [← h.2]
    · generalize hc : Text.cutAt d cs = r at h
      obtain ⟨b, a⟩ := r
      simp only [Prod.mk.injEq] at h
      obtain ⟨-, rfl⟩ := h
      exact Nat.lt_succ_of_lt (ih hc)

/-- The keys in a run of bracketed groups, added to those before them. -/
def readKeys (segment : String) (ks : Keys) : List Char → Except Error Keys
  | [] => .ok ks
  | c :: cs =>
    if c ≠ '[' then .error (.textAfterKeys segment (String.ofList (c :: cs)))
    else match h : Text.cutAt ']' cs with
      | (_, none) => .error (.unclosedKey segment)
      | (group, some rest) =>
        match Text.cutAt '=' group with
        | (_, none) => .error (.noValue segment (String.ofList group))
        | (key, some value) =>
          if key.isEmpty then .error (.emptyKey segment (String.ofList group))
          else match ks.add? (String.ofList key) (String.ofList value) with
            | none => .error (.repeatedKey segment (String.ofList key))
            | some ks =>
              have := length_of_cutAt h
              readKeys segment ks rest
termination_by cs => cs.length

/-- The element that a segment spells. -/
def readElement (segment : String) : Except Error Element :=
  let cs := segment.toList
  let name := cs.takeWhile (· ≠ '[')
  let groups := cs.dropWhile (· ≠ '[')
  if groups.isEmpty then
    if name.isEmpty then .error .emptyElement else .ok ⟨segment, .empty⟩
  else if name.isEmpty then .error (.noName segment)
  else (readKeys segment .empty groups).map fun ks => ⟨String.ofList name, ks⟩

def readElements : List String → Except Error (List Element)
  | [] => .ok []
  | s :: ss => do
    let e ← readElement s
    let es ← readElements ss
    .ok (e :: es)

/-- The path that a text spells; a slash in front of it makes no difference. -/
def read (path : String) : Except Error Path := do
  let ss ← tokenize path
  let es ← readElements ss
  .ok ⟨es⟩

end StateCheck.Path
