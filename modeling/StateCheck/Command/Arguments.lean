import StateCheck.Text.Blank

/-!
Arguments of commands: options by their short and long names, their values, and the arguments
that are no options.
-/

namespace StateCheck.Command

/-- An option that a command takes. -/
structure Switch where
  short : Option Char
  long : String
  takesValue : Bool

/-- What an argument says: an option by its long name, with its value, or a text in its place. -/
inductive Item
  | option (name value : String)
  | place (text : String)
deriving DecidableEq

/-- What one argument says; the last option in it may still lack its value. -/
structure Reading where
  items : List Item
  awaiting : Option String

namespace Reading

/-- Reads a long option; its value may follow an equals sign. -/
def ofLong (switches : List Switch) (cs : List Char) : Option Reading :=
  let (name, value) := Text.cutAt '=' cs
  match switches.find? fun s => s.long.toList == name, value with
  | some s, none => some (if s.takesValue then ⟨[], some s.long⟩ else ⟨[.option s.long ""], none⟩)
  | some s, some v =>
    if s.takesValue then some ⟨[.option s.long (String.ofList v)], none⟩ else none
  | none, _ => none

/-- Reads short options. What follows an option that takes a value is its value. -/
def ofShort (switches : List Switch) : List Char → Option Reading
  | [] => some ⟨[], none⟩
  | c :: cs =>
    match switches.find? fun s => s.short == some c with
    | none => none
    | some s =>
      if s.takesValue then
        some (if cs.isEmpty then ⟨[], some s.long⟩
          else ⟨[.option s.long (String.ofList cs)], none⟩)
      else
        (ofShort switches cs).map fun r => ⟨.option s.long "" :: r.items, r.awaiting⟩

end Reading

/-- The items of arguments, unless one is no option of the command or lacks its value. After two
dashes no argument is an option. -/
def readItems (switches : List Switch) : List String → Option (List Item)
  | [] => some []
  | arg :: args =>
    let reading : Option Reading := match arg.toList with
      | '-' :: '-' :: cs => Reading.ofLong switches cs
      | '-' :: c :: cs => Reading.ofShort switches (c :: cs)
      | _ => some ⟨[.place arg], none⟩
    if arg = "--" then some (args.map .place)
    else
      match reading, args with
      | none, _ | some ⟨_, some _⟩, [] => none
      | some ⟨items, none⟩, args => do some (items ++ (← readItems switches args))
      | some ⟨items, some name⟩, value :: args => do
        some (items ++ .option name value :: (← readItems switches args))

/-- The options and the other arguments of a command, each in their order. -/
structure Arguments where
  options : List (String × String)
  places : List String

namespace Arguments

def ofItems : List Item → Arguments
  | [] => ⟨[], []⟩
  | .option name value :: items =>
    let rest := ofItems items
    { rest with options := (name, value) :: rest.options }
  | .place text :: items =>
    let rest := ofItems items
    { rest with places := text :: rest.places }

def read (switches : List Switch) (args : List String) : Option Arguments :=
  (readItems switches args).map ofItems

/-- The values of an option that may be repeated. -/
def all (a : Arguments) (name : String) : List String :=
  (a.options.filter fun o => o.1 == name).map (·.2)

/-- The value of an option; of several the last one counts. -/
def value? (a : Arguments) (name : String) : Option String := (a.all name).getLast?

/-- The value of an option, empty if the option is not given. -/
def text (a : Arguments) (name : String) : String := (a.value? name).getD ""

def isGiven (a : Arguments) (name : String) : Bool := !(a.all name).isEmpty

end Arguments

end StateCheck.Command
