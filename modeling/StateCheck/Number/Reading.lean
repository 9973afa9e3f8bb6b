import StateCheck.Number.Binary64
import StateCheck.Text.Blank
import StateCheck.Text.Case
import StateCheck.Text.Digit

/-!
Numbers read from text: blanks around them, underscores between digits and the digits of every
script are accepted.
-/

namespace StateCheck.Numeral

open StateCheck.Text

/-- Blanks around a number; the information separators do not count. -/
def isMargin (c : Char) : Bool := isBlank c && !(28 ≤ c.toNat && c.toNat ≤ 31)

/-- Splits a sign off. -/
def takeSign : List Char → Bool × List Char
  | '-' :: cs => (true, cs)
  | '+' :: cs => (false, cs)
  | cs => (false, cs)

/-- The leading digits, single underscores between them left out, and what follows them. -/
def takeDigits : List Char → List Nat × List Char
  | [] => ([], [])
  | c :: cs =>
    match digitValue? c with
    | none => ([], c :: cs)
    | some d =>
      match cs with
      | '_' :: c' :: cs' =>
        if (digitValue? c').isSome then
          let (ds, rest) := takeDigits (c' :: cs')
          (d :: ds, rest)
        else ([d], cs)
      | cs =>
        let (ds, rest) := takeDigits cs
        (d :: ds, rest)

def ofDigits (base : Nat) (ds : List Nat) : Nat := ds.foldl (fun n d => n * base + d) 0

/-- No whole number of more decimal digits is read or written. -/
def digitLimit : Nat := 4300

/-- The whole number that a text spells in base ten. -/
def readInt? (cs : List Char) : Option Int :=
  let (negative, cs) := takeSign (trimWhile isMargin cs)
  match takeDigits cs with
  | ([], _) => none
  | (ds, []) =>
    if digitLimit < ds.length then none
    else
      let n : Int := ofDigits 10 ds
      some (if negative then -n else n)
  | _ => none

/-- The part of a number that scales it by a power of ten. -/
def readExponent? : List Char → Option Int
  | [] => some 0
  | c :: cs =>
    if c = 'e' ∨ c = 'E' then
      let (negative, cs) := takeSign cs
      match takeDigits cs with
      | (d :: ds, []) =>
        let n : Int := ofDigits 10 (d :: ds)
        some (if negative then -n else n)
      | _ => none
    else none

/-- The number `digits * 10 ^ exponent`; numbers far out of range are settled without their powers. -/
def scale (negative : Bool) (ds : List Nat) (exponent : Int) : Binary64 :=
  let ds := ds.dropWhile (· == 0)
  let magnitude := ds.length + exponent
  if ds.isEmpty ∨ magnitude < -400 then .finite negative 0
  else if 400 < magnitude then .infinite negative
  else .ofScientific negative (ofDigits 10 ds) exponent

def readDecimal? (negative : Bool) (cs : List Char) : Option Binary64 :=
  let (whole, rest) := takeDigits cs
  let (places, rest) := match rest with
    | '.' :: rest => takeDigits rest
    | rest => ([], rest)
  if whole.isEmpty && places.isEmpty then none
  else (readExponent? rest).map fun e => scale negative (whole ++ places) (e - places.length)

/-- The number that a text spells, `inf`, `infinity` and `nan` in any case among them. -/
def readFloat? (cs : List Char) : Option Binary64 :=
  let (negative, cs) := takeSign (trimWhile isMargin cs)
  match String.ofList (cs.map Char.toLower) with
  | "inf" | "infinity" => some (.infinite negative)
  | "nan" => some .nan
  | _ => readDecimal? negative cs

end StateCheck.Numeral
