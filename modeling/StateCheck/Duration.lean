import StateCheck.Failure
import StateCheck.Number.Reading

/-!
Durations with an optional unit behind the number.
-/

namespace StateCheck.Duration

/-- Units and their seconds, longer names first. -/
def units : List (String × Binary64) :=
  [("ms", .ofScientific false 1 (-3)), ("s", .ofNat 1), ("m", .ofNat 60), ("h", .ofNat 3600)]

/-- The number text and the scale of a duration. -/
def split (cs : List Char) : List Char × Binary64 :=
  match units.find? fun u => u.1.toList.isSuffixOf cs with
  | some (name, scale) => (cs.take (cs.length - name.length), scale)
  | none => (cs, .ofNat 1)

/-- The seconds of a duration. -/
def read (text : String) : Except Failure Binary64 :=
  let (number, scale) := split (Text.trim text.toList)
  match Numeral.readFloat? number with
  | none => .error (.of .config ("Invalid duration '" ++ text ++ "'") [])
  | some x =>
    let seconds := x.mul scale
    if seconds.le .zero then
      .error (.of .config ("Duration must be positive: '" ++ text ++ "'") [])
    else .ok seconds

end StateCheck.Duration
