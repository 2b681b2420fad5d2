/-!
# Markup

A piece of markup is either fixed text, which is written as it is, or text of the user, in which the
five characters with a meaning in HTML are written as character references.  `Markup.toHtml` writes
a list of pieces.

The function that escapes texts is given.  `Escaping` says what is documented of it.
-/

namespace DocTable

/-- The character reference for a character with a meaning in HTML, and any other character. -/
def escapeChar (c : Char) : List Char :=
  if c = '&' then "&amp;".toList
  else if c = '<' then "&lt;".toList
  else if c = '>' then "&gt;".toList
  else if c = '\x27' then "&#39;".toList
  else if c = '\x22' then "&#34;".toList
  else [c]

/-- A function that escapes texts. -/
class Escaping where
  /-- A text with character references for the characters that have a meaning in HTML. -/
  escapeText : String → String
  /-- Each of these characters is replaced, and no other one. -/
  escapeText_eq : ∀ s, escapeText s = String.ofList (s.toList.flatMap escapeChar)

export Escaping (escapeText escapeText_eq)

/-- A piece of markup. -/
inductive Piece where
  /-- Markup that is written as it is. -/
  | fixed (s : String)
  /-- Text that is escaped. -/
  | text (s : String)
  deriving DecidableEq, Repr

/-- Markup is a list of pieces. -/
abbrev Markup := List Piece

section

variable [Escaping]

/-- What is written for a piece. -/
def Piece.toHtml : Piece → String
  | fixed s => s
  | text s => escapeText s

/-- What is written for a list of pieces. -/
def Markup.toHtml (pieces : Markup) : String :=
  String.join (pieces.map Piece.toHtml)

end

namespace Markup

/-- The markups with a fixed separator between neighbours. -/
def join (separator : String) : List Markup → Markup
  | [] => []
  | [m] => m
  | m :: ms => m ++ .fixed separator :: join separator ms

/-- Markup between a start tag and an end tag. -/
def wrap (opening : String) (m : Markup) (closing : String) : Markup :=
  .fixed opening :: m ++ [.fixed closing]

end Markup

end DocTable
