import StateCheck.Json.Reader

/-!
The grammar of JSON texts, given apart from the way in which they are read. Beside the standard
grammar the names `NaN`, `Infinity` and `-Infinity` are numbers, and half of a pair of units may
stand alone.
-/

namespace StateCheck.Json

open StateCheck.Text

/-- Spaces and line breaks, which may stand around every value and every key. -/
def Gap (s : List Char) : Prop := ∀ c ∈ s, isSpace c = true

/-! ### Strings -/

/-- Four hexadecimal digits and the unit of UTF-16 that they number. -/
inductive CodeUnit : List Char → Nat → Prop
  | mk {a b c d : Char} {i j k l : Nat} (ha : hexValue? a = some i) (hb : hexValue? b = some j)
      (hc : hexValue? c = some k) (hd : hexValue? d = some l) :
      CodeUnit [a, b, c, d] (((i * 16 + j) * 16 + k) * 16 + l)

/-- The text goes on with the second half of a pair. -/
def StartsLow (cs : List Char) : Prop :=
  ∃ u low tail, cs = '\\' :: 'u' :: (u ++ tail) ∧ CodeUnit u low ∧ isLowUnit low = true

/-- What stands between two quotes, and the characters that it stands for. The first half of a
pair only stands alone where the second half does not follow. -/
inductive Quoted : List Char → List Char → Prop
  | nil : Quoted [] []
  | plain {c : Char} {cs text : List Char} (hquote : c ≠ '"') (hslash : c ≠ '\\')
      (hcontrol : 32 ≤ c.toNat) (tail : Quoted cs text) : Quoted (c :: cs) (c :: text)
  | escape {e c : Char} {cs text : List Char} (he : simpleEscape? e = some c)
      (tail : Quoted cs text) : Quoted ('\\' :: e :: cs) (c :: text)
  | unit {u cs text : List Char} {n : Nat} (hu : CodeUnit u n)
      (halone : isHighUnit n = true → ¬StartsLow cs) (tail : Quoted cs text) :
      Quoted ('\\' :: 'u' :: (u ++ cs)) (unitChar n :: text)
  | pair {u u' cs text : List Char} {high low : Nat} (hu : CodeUnit u high)
      (hhigh : isHighUnit high = true) (hu' : CodeUnit u' low) (hlow : isLowUnit low = true)
      (tail : Quoted cs text) :
      Quoted ('\\' :: 'u' :: (u ++ '\\' :: 'u' :: (u' ++ cs))) (pairChar high low :: text)

/-! ### Numbers -/

def Digits (ds : List Char) : Prop := ds ≠ [] ∧ ∀ c ∈ ds, isDigit c = true

/-- The digits in front of the point: a zero at the front stands alone. -/
inductive Whole : List Char → Prop
  | zero : Whole ['0']
  | digits {ds : List Char} (h : Digits ds) (hfirst : ds.head? ≠ some '0') : Whole ds

/-- The digits behind the point, if there is one. -/
inductive Places : List Char → Option (List Char) → Prop
  | absent : Places [] none
  | present {ds : List Char} (h : Digits ds) : Places ('.' :: ds) (some ds)

/-- A sign that may be left out, and whether it is a minus. -/
inductive Sign : List Char → Bool → Prop
  | absent : Sign [] false
  | plus : Sign ['+'] false
  | minus : Sign ['-'] true

def wholeNumber (negative : Bool) (ds : List Char) : Int :=
  if negative then -(Numeral.ofDigits 10 (digitsOf ds) : Int) else Numeral.ofDigits 10 (digitsOf ds)

/-- The power of ten, if there is one. -/
inductive Power : List Char → Option Int → Prop
  | absent : Power [] none
  | present {e : Char} {s ds : List Char} {negative : Bool} (he : e = 'e' ∨ e = 'E')
      (hs : Sign s negative) (h : Digits ds) :
      Power (e :: (s ++ ds)) (some (wholeNumber negative ds))

/-- A number without its sign: whole if it has neither places nor a power of ten, and then of no
more digits than numbers are read with. -/
inductive Magnitude (negative : Bool) : List Char → Value → Prop
  | whole {ds : List Char} (h : Whole ds) (hlimit : ds.length ≤ Numeral.digitLimit) :
      Magnitude negative ds (.int (wholeNumber negative ds))
  | fraction {ds p e : List Char} {places : Option (List Char)} {power : Option Int}
      (h : Whole ds) (hp : Places p places) (he : Power e power)
      (hsome : places ≠ none ∨ power ≠ none) :
      Magnitude negative (ds ++ (p ++ e)) (.float (Numeral.scale negative
        (digitsOf (ds ++ places.getD [])) (power.getD 0 - (places.getD []).length)))

inductive Number : List Char → Value → Prop
  | positive {w : List Char} {v : Value} (h : Magnitude false w v) : Number w v
  | negative {w : List Char} {v : Value} (h : Magnitude true w v) : Number ('-' :: w) v
  | infinite : Number ['-', 'I', 'n', 'f', 'i', 'n', 'i', 't', 'y'] (.float (.infinite true))

/-! ### Values -/

/-- What a piece of text can spell: a value, an element (a value with gaps around it), or the
elements or members between brackets. -/
inductive Part
  | value (v : Value)
  | element (v : Value)
  | elements (vs : List Value)
  | member (k : String) (v : Value)
  | members (ms : List (String × Value))

inductive Spells : List Char → Part → Prop
  | null : Spells ['n', 'u', 'l', 'l'] (.value .null)
  | yes : Spells ['t', 'r', 'u', 'e'] (.value (.bool true))
  | no : Spells ['f', 'a', 'l', 's', 'e'] (.value (.bool false))
  | nan : Spells ['N', 'a', 'N'] (.value (.float .nan))
  | infinite : Spells ['I', 'n', 'f', 'i', 'n', 'i', 't', 'y'] (.value (.float (.infinite false)))
  | number {w : List Char} {v : Value} (h : Number w v) : Spells w (.value v)
  | string {cs text : List Char} (h : Quoted cs text) :
      Spells ('"' :: (cs ++ ['"'])) (.value (.string (String.ofList text)))
  | emptyArray {s : List Char} (hs : Gap s) : Spells ('[' :: (s ++ [']'])) (.value (.array []))
  | array {cs : List Char} {vs : List Value} (h : Spells cs (.elements vs)) :
      Spells ('[' :: (cs ++ [']'])) (.value (.array vs))
  | emptyObject {s : List Char} (hs : Gap s) : Spells ('{' :: (s ++ ['}'])) (.value (.object []))
  | object {cs : List Char} {ms : List (String × Value)} (h : Spells cs (.members ms)) :
      Spells ('{' :: (cs ++ ['}'])) (.value (.object (Value.ofMembers ms)))
  | element {s w t : List Char} {v : Value} (hs : Gap s) (h : Spells w (.value v)) (ht : Gap t) :
      Spells (s ++ (w ++ t)) (.element v)
  | lastElement {cs : List Char} {v : Value} (h : Spells cs (.element v)) :
      Spells cs (.elements [v])
  | elements {cs cs' : List Char} {v : Value} {vs : List Value} (head : Spells cs (.element v))
      (tail : Spells cs' (.elements vs)) : Spells (cs ++ ',' :: cs') (.elements (v :: vs))
  | member {s k key t cs : List Char} {v : Value} (hs : Gap s) (hk : Quoted k key) (ht : Gap t)
      (h : Spells cs (.element v)) :
      Spells (s ++ '"' :: (k ++ '"' :: (t ++ ':' :: cs))) (.member (String.ofList key) v)
  | lastMember {cs : List Char} {k : String} {v : Value} (h : Spells cs (.member k v)) :
      Spells cs (.members [(k, v)])
  | members {cs cs' : List Char} {k : String} {v : Value} {ms : List (String × Value)}
      (head : Spells cs (.member k v)) (tail : Spells cs' (.members ms)) :
      Spells (cs ++ ',' :: cs') (.members ((k, v) :: ms))

end StateCheck.Json
