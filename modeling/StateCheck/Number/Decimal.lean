import StateCheck.Number.Binary64
import StateCheck.Text.Digit

/-!
Decimal texts of double precision numbers: the fewest digits that read back, a fixed number of
places, and a fixed number of significant digits.
-/

namespace StateCheck.Decimal

open StateCheck.Text

/-- A positive number `0.d₁d₂d₃… * 10 ^ point` by its digits. -/
structure Digits where
  digits : List Char
  point : Int

/-- The whole numbers next to `n / d` from below and from above, scaled by `10 ^ places`. -/
def scaled (n d : Nat) (places : Int) : Nat × Nat :=
  if places < 0 then (n, d * tenTo places.natAbs) else (n * tenTo places.natAbs, d)

/-- The power of ten at or below the number of `units`, as the position of its first digit. -/
def firstPlace (units : Nat) : Int :=
  (decimal (units * tenTo 400 / Binary64.unitsPerOne)).length - 401

/-- Whether the decimal `k / 10 ^ places` reads back as the number of `units`: it lies between
the midpoints to the neighbouring numbers, which themselves belong to the even neighbour. -/
def readsBack (units : Nat) (k : Nat) (places : Int) : Bool :=
  let gap := Binary64.spacing units
  let below := if gap ≠ 1 && units = gap * twoTo 52 then gap / 2 else gap
  let even := (units / gap) % 2 == 0
  -- four times the value of the decimal in units, as a fraction
  let (n, d) := scaled (4 * k * Binary64.unitsPerOne) 1 (-places)
  let low := 4 * units - 2 * below
  let high := 4 * units + 2 * gap
  if even then low * d ≤ n && n ≤ high * d else low * d < n && n < high * d

/-- The decimal of `count` digits nearest to the number among those that read back. -/
def candidate? (units : Nat) (place : Int) (count : Nat) : Option (Nat × Int) :=
  let places := (count : Int) - 1 - place
  let (n, d) := scaled units Binary64.unitsPerOne places
  let floor := n / d
  let nearFloor := 2 * (n % d) < d || (2 * (n % d) == d && floor % 2 == 0)
  let (first, second) := if nearFloor then (floor, floor + 1) else (floor + 1, floor)
  if readsBack units first places then some (first, places)
  else if readsBack units second places then some (second, places)
  else none

def dropZeros (ds : List Char) : List Char := dropRightZeros ds.reverse
where
  dropRightZeros (rs : List Char) : List Char := (rs.dropWhile (· == '0')).reverse

/-- The digits of `k / 10 ^ places` without zeros at the end. -/
def digitsOf (k : Nat) (places : Int) : Digits :=
  let ds := decimal k
  ⟨dropZeros ds, ds.length - places⟩

/-- The fewest digits that read back as the positive number of `units`. -/
def shortest (units : Nat) : Digits :=
  let place := firstPlace units
  match (List.range 17).findSome? fun i => candidate? units place (i + 1) with
  | some (k, places) => digitsOf k places
  | none => digitsOf units 0

/-- The digits of the positive number of `units` rounded to `count` significant ones. -/
def significant (count units : Nat) : Digits :=
  let places := (count : Int) - 1 - firstPlace units
  let (n, d) := scaled units Binary64.unitsPerOne places
  digitsOf (Binary64.divNearest n d) places

/-- Where a text turns to powers of ten, and whether a whole number keeps a zero place. -/
structure Layout where
  least : Int
  most : Int
  keepsPlace : Bool

/-- Numbers from `10 ^ -4` up to `10 ^ 16` are written in full, whole ones with one place. -/
def Layout.plain : Layout := ⟨-3, 16, true⟩

/-- At most `count` digits stand before the point. -/
def Layout.general (count : Nat) : Layout := ⟨-3, count, false⟩

def exponentText (e : Int) : List Char :=
  'e' :: (if e < 0 then '-' else '+') :: padded 2 e.natAbs

def Layout.write (layout : Layout) (x : Digits) : List Char :=
  if x.point < layout.least ∨ layout.most < x.point then
    match x.digits with
    | [] => []
    | [d] => d :: exponentText (x.point - 1)
    | d :: ds => d :: '.' :: (ds ++ exponentText (x.point - 1))
  else if x.point ≤ 0 then
    '0' :: '.' :: (List.replicate x.point.natAbs '0' ++ x.digits)
  else
    let whole := x.digits.take x.point.natAbs
    let zeros := List.replicate (x.point.natAbs - x.digits.length) '0'
    match x.digits.drop x.point.natAbs with
    | [] => whole ++ zeros ++ if layout.keepsPlace then ['.', '0'] else []
    | places => whole ++ '.' :: places

def signText (negative : Bool) : List Char := if negative then ['-'] else []

def infinityText (negative : Bool) : List Char := signText negative ++ ['i', 'n', 'f']

/-- The shortest text that reads back. -/
def text : Binary64 → List Char
  | .nan => ['n', 'a', 'n']
  | .infinite s => infinityText s
  | .finite s 0 => signText s ++ ['0', '.', '0']
  | .finite s m => signText s ++ Layout.plain.write (shortest m)

/-- The text with `count` significant digits, zeros at the end left out. -/
def general (count : Nat) : Binary64 → List Char
  | .nan => ['n', 'a', 'n']
  | .infinite s => infinityText s
  | .finite s 0 => signText s ++ ['0']
  | .finite s m => signText s ++ (Layout.general count).write (significant count m)

/-- The digits of `n` with a point before the last `places` of them. -/
def pointed (places n : Nat) : List Char :=
  let ds := padded (places + 1) n
  let whole := ds.length - places
  if places = 0 then ds else ds.take whole ++ '.' :: ds.drop whole

/-- The text with exactly `places` digits after the point. -/
def fixed (places : Nat) : Binary64 → List Char
  | .nan => ['n', 'a', 'n']
  | .infinite s => infinityText s
  | .finite s m =>
    signText s ++ pointed places (Binary64.divNearest (m * tenTo places) Binary64.unitsPerOne)

end StateCheck.Decimal
