/-!
HTML pages in parts: markup of the page itself, and texts, which are escaped.
-/

namespace StateCheck.Html

inductive Part
  | markup (s : String)
  | text (s : String)
deriving DecidableEq

/-- The written form of a character of a text. -/
def escapeChar (c : Char) : List Char :=
  match c with
  | '&' => "&amp;".toList
  | '<' => "&lt;".toList
  | '>' => "&gt;".toList
  | '\'' => "&#39;".toList
  | '"' => "&#34;".toList
  | c => [c]

def escape (s : String) : List Char := s.toList.flatMap escapeChar

def Part.render : Part → List Char
  | markup s => s.toList
  | text s => escape s

def render (parts : List Part) : String := String.ofList (parts.flatMap Part.render)

/-- A text between two pieces of markup. -/
def within (before : String) (s : String) (after : String) : List Part :=
  [.markup before, .text s, .markup after]

end StateCheck.Html
