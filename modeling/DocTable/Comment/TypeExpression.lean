import DocTable.Text.Blank
import DocTable.Text.Word

/-!
# Type expressions

The body of a tag may start with a type expression, which goes on to the first blank outside all
brackets.  `splitType` finds that blank, and `isTypeExpression` says whether the text before it can
be a type: it has the characters of types only, and its brackets of four kinds are balanced.
-/

namespace DocTable.Comment

open Text

/-- The closing bracket for an opening one. -/
def closer? : Char → Option Char
  | '<' => some '>'
  | '(' => some ')'
  | '[' => some ']'
  | '\x7b' => some '\x7d'
  | _ => none

/-- A closing bracket. -/
def isCloser (c : Char) : Bool :=
  c == '>' || c == ')' || c == ']' || c == '\x7d'

/-- The text before the first blank outside brackets and the text from there on; `expected` are the
closing brackets of those that are open, the innermost first.  Brackets that do not match are
text. -/
def splitTypeFrom (expected : List Char) : List Char → List Char × List Char
  | [] => ([], [])
  | c :: cs =>
    match closer? c with
    | some close =>
      let (type, rest) := splitTypeFrom (close :: expected) cs
      (c :: type, rest)
    | none =>
      if expected.head? = some c then
        let (type, rest) := splitTypeFrom expected.tail cs
        (c :: type, rest)
      else if isBlank c && expected.isEmpty then
        ([], c :: cs)
      else
        let (type, rest) := splitTypeFrom expected cs
        (c :: type, rest)

/-- The leading type token of a tag body and the trimmed text after it. -/
def splitType (body : List Char) : List Char × List Char :=
  let (type, rest) := splitTypeFrom [] body
  (type, trim rest)

/-- The text starts like a type: with a nullable mark, a separator, a parenthesis, an identifier or
the word `$this`. -/
def startsType : List Char → Bool
  | '?' :: _ => true
  | '\\' :: _ => true
  | '(' :: _ => true
  | '$' :: 't' :: 'h' :: 'i' :: 's' :: rest => !(rest.head?.any isWord)
  | c :: _ => isNameStart c
  | [] => false

/-- A character of type expressions. -/
def isTypeChar (c : Char) : Bool :=
  isWord c || c ∈ "\\|&?<>,[]():\x7b\x7d'\" .$-".toList

/-- The brackets of the text are balanced, those of `expected` being open. -/
def balancedFrom (expected : List Char) : List Char → Bool
  | [] => expected.isEmpty
  | c :: cs =>
    match closer? c with
    | some close => balancedFrom (close :: expected) cs
    | none =>
      if isCloser c then expected.head? = some c && balancedFrom expected.tail cs
      else balancedFrom expected cs

/-- A token that can be a type. -/
def isTypeExpression (token : List Char) : Bool :=
  startsType token && token.all isTypeChar && balancedFrom [] token

end DocTable.Comment
