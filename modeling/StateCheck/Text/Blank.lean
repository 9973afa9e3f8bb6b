/-!
Blank characters and line breaks, and the ways a text is cut at them.
-/

namespace StateCheck.Text

/-- Unicode white space together with the four information separators. -/
def isBlank (c : Char) : Bool :=
  let n := c.toNat
  (9 ≤ n && n ≤ 13) || (28 ≤ n && n ≤ 32) || n == 0x85 || n == 0xA0 || n == 0x1680 ||
    (0x2000 ≤ n && n ≤ 0x200A) || n == 0x2028 || n == 0x2029 || n == 0x202F ||
    n == 0x205F || n == 0x3000

/-- The characters that end a line. -/
def isLineBreak (c : Char) : Bool :=
  let n := c.toNat
  (10 ≤ n && n ≤ 13) || (28 ≤ n && n ≤ 30) || n == 0x85 || n == 0x2028 || n == 0x2029

def dropRightWhile (p : Char → Bool) (cs : List Char) : List Char :=
  (cs.reverse.dropWhile p).reverse

/-- The text without the characters of `p` at its two ends. -/
def trimWhile (p : Char → Bool) (cs : List Char) : List Char :=
  dropRightWhile p (cs.dropWhile p)

def trim (cs : List Char) : List Char := trimWhile isBlank cs

/-- The pieces between the characters of `p`, empty pieces included. -/
def splitWhere (p : Char → Bool) : List Char → List (List Char)
  | [] => [[]]
  | c :: cs =>
    if p c then [] :: splitWhere p cs
    else match splitWhere p cs with
      | [] => [[c]]
      | w :: ws => (c :: w) :: ws

/-- The maximal runs of characters that are not blank. -/
def words (cs : List Char) : List (List Char) :=
  (splitWhere isBlank cs).filter fun w => !w.isEmpty

/-- The lines of a text, without their line breaks; a break at the end opens no further line. -/
def lines : List Char → List (List Char)
  | [] => []
  | '\r' :: '\n' :: cs => [] :: lines cs
  | c :: cs =>
    if isLineBreak c then [] :: lines cs
    else match lines cs with
      | [] => [[c]]
      | l :: ls => (c :: l) :: ls

/-- Every line ending of a file, `\r\n` or `\r`, becomes `\n`. -/
def unifyBreaks : List Char → List Char
  | [] => []
  | '\r' :: '\n' :: cs => '\n' :: unifyBreaks cs
  | '\r' :: cs => '\n' :: unifyBreaks cs
  | c :: cs => c :: unifyBreaks cs

/-- Whether `w` occurs in `cs` as a run of neighbouring characters. -/
def occursIn (w : List Char) : List Char → Bool
  | [] => w.isEmpty
  | c :: cs => w.isPrefixOf (c :: cs) || occursIn w cs

/-- The text before the first `d`, and the text after it if there is one. -/
def cutAt (d : Char) : List Char → List Char × Option (List Char)
  | [] => ([], none)
  | c :: cs =>
    if c = d then ([], some cs)
    else
      let (before, after) := cutAt d cs
      (c :: before, after)

/-- What follows the last `d`, or the whole text if there is none. -/
def afterLast (d : Char) (cs : List Char) : List Char :=
  (cs.reverse.takeWhile (· != d)).reverse

def joinWith (sep : String) (parts : List String) : String :=
  String.ofList ((List.intersperse sep.toList (parts.map String.toList)).flatten)

/-- The texts in the order of their characters. -/
def sorted (texts : List String) : List String := texts.mergeSort fun s t => !decide (t < s)

end StateCheck.Text
