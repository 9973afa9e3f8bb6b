/-!
Double precision numbers. A finite number is a whole count of units, a unit being the least
positive number `2 ^ -1074`, so that sums, comparisons and rounding are integer arithmetic.
-/

namespace StateCheck

def twoTo (n : Nat) : Nat := Nat.pow 2 n

def tenTo (n : Nat) : Nat := Nat.pow 10 n

theorem twoTo_pos (n : Nat) : 0 < twoTo n := Nat.two_pow_pos n

inductive Binary64
  | nan
  | infinite (negative : Bool)
  | finite (negative : Bool) (units : Nat)
deriving DecidableEq

namespace Binary64

def unitsPerOne : Nat := twoTo 1074

/-- The least count of units that is too large to be finite. -/
def unitsBound : Nat := twoTo 2098

def zero : Binary64 := finite false 0

/-- The quotient rounded to the nearest whole number, a tie to the even one. -/
def divNearest (n d : Nat) : Nat :=
  let q := n / d
  let twice := 2 * (n % d)
  if twice < d then q else if d < twice then q + 1 else q + q % 2

/-- The spacing of the numbers that have as many leading bits as `units`. -/
def spacing (units : Nat) : Nat := twoTo (Nat.log2 units - 52)

/-- The quotient of counts of units rounded to a number of at most 53 significant bits. -/
def roundUnits (n d : Nat) : Nat :=
  let step := spacing (n / d)
  divNearest n (d * step) * step

def ofUnits (negative : Bool) (n d : Nat) : Binary64 :=
  let units := roundUnits n d
  if units < unitsBound then finite negative units else infinite negative

/-- The number nearest to `n / d`. -/
def ofQuotient (negative : Bool) (n d : Nat) : Binary64 :=
  ofUnits negative (n * unitsPerOne) d

def ofNat (n : Nat) : Binary64 := ofQuotient false n 1

def ofInt (i : Int) : Binary64 := ofQuotient (i < 0) i.natAbs 1

/-- The number nearest to `digits * 10 ^ exponent`. -/
def ofScientific (negative : Bool) (digits : Nat) (exponent : Int) : Binary64 :=
  if exponent < 0 then ofQuotient negative digits (tenTo exponent.natAbs)
  else ofQuotient negative (digits * tenTo exponent.natAbs) 1

/-- The signed count of units of a finite number. -/
def signed (negative : Bool) (units : Nat) : Int := if negative then -units else units

/-- Whether the number differs from zero; NaN does. -/
def isTruthy : Binary64 → Bool
  | finite _ 0 => false
  | _ => true

def lt : Binary64 → Binary64 → Bool
  | nan, _ | _, nan => false
  | infinite s, infinite t => s && !t
  | infinite s, finite .. => s
  | finite .., infinite t => !t
  | finite s m, finite t n => signed s m < signed t n

def eq : Binary64 → Binary64 → Bool
  | nan, _ | _, nan => false
  | infinite s, infinite t => s == t
  | finite s m, finite t n => signed s m == signed t n
  | _, _ => false

def le (x y : Binary64) : Bool := x.lt y || x.eq y

def neg : Binary64 → Binary64
  | nan => nan
  | infinite s => infinite (!s)
  | finite s m => finite (!s) m

def add : Binary64 → Binary64 → Binary64
  | nan, _ | _, nan => nan
  | infinite s, infinite t => if s = t then infinite s else nan
  | infinite s, _ => infinite s
  | _, infinite t => infinite t
  | finite s m, finite t n =>
    let sum := signed s m + signed t n
    if sum = 0 then finite (s && t) 0 else ofUnits (sum < 0) sum.natAbs 1

def sub (x y : Binary64) : Binary64 := x.add y.neg

def mul : Binary64 → Binary64 → Binary64
  | nan, _ | _, nan => nan
  | infinite s, infinite t => infinite (s != t)
  | infinite s, finite t n => if n = 0 then nan else infinite (s != t)
  | finite s m, infinite t => if m = 0 then nan else infinite (s != t)
  | finite s m, finite t n => ofUnits (s != t) (m * n) unitsPerOne

/-- The lesser number, the first one if neither is less. -/
def min (x y : Binary64) : Binary64 := if y.lt x then y else x

/-- The greater number, the first one if neither is greater. -/
def max (x y : Binary64) : Binary64 := if x.lt y then y else x

/-- The whole part of a finite number. -/
def truncate? : Binary64 → Option Int
  | finite s m => some (signed s (m / unitsPerOne))
  | _ => none

end Binary64

end StateCheck
