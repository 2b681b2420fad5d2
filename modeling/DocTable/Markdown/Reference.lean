import DocTable.Text.Blank
import DocTable.Text.Lines
import DocTable.Text.LowerCase

/-!
# Link references

A reference gives a name to a link target.  It is defined by a name in brackets, a colon, the target
and possibly a title, the last on the same line or on the next one.  `Reference.find?` finds the
first definition in a block.
-/

namespace DocTable.Markdown

open Text

/-- A named link target. -/
structure Reference where
  name : List Char
  target : List Char
  title : Option (List Char)

namespace Reference

/-- The line at the start of a text, and the text after it, which is empty or starts with a line
feed. -/
def splitLine (cs : List Char) : List Char × List Char :=
  cs.span (· != '\n')

/-- The text after the spaces at its start. -/
def dropSpaces (cs : List Char) : List Char :=
  cs.dropWhile (· == ' ')

/-- The title that fills the rest of the line, between two quotes of one kind or in parentheses, and
the text after the line. -/
def title? (cs : List Char) : Option (List Char × List Char) :=
  let (line, rest) := splitLine cs
  match line with
  | [] => none
  | first :: inner =>
    let closing :=
      if first = '(' then some ')'
      else if first = '\x22' || first = '\x27' then some first
      else none
    match dropRightWhile (· == ' ') inner |>.reverse with
    | last :: title => if closing = some last then some (title.reverse, rest) else none
    | [] => none

/-- The end of a definition after its target: the title, if there is one, and the text after it. -/
def ending? (cs : List Char) : Option (Option (List Char) × List Char) :=
  match dropSpaces cs with
  | '\n' :: rest =>
    match title? (dropSpaces rest) with
    | some (title, rest) => some (some title, rest)
    | none =>
      match dropSpaces rest with
      | [] => some (none, [])
      | '\n' :: more => some (none, '\n' :: more)
      | _ => some (none, '\n' :: rest)
  | [] => some (none, [])
  | rest => (title? rest).map fun (title, rest) => (some title, rest)

/-- The longest part of `word`, read from its end, after which a definition may end.  The text
`rest` follows the word. -/
def targetAndEnding? : List Char → List Char →
    Option (List Char × Option (List Char) × List Char)
  | [], _ => none
  | c :: word, rest =>
    match ending? rest with
    | some (title, rest) => some ((c :: word).reverse, title, rest)
    | none => targetAndEnding? word (c :: rest)

/-- The definition at the start of a line, and the text after it. -/
def atLine? (cs : List Char) : Option (Reference × List Char) := do
  let opening := dropSpaces cs
  guard (cs.length ≤ opening.length + 3)
  let '[' :: label := opening | none
  let (name, rest) := label.span fun c => c != '[' && c != ']'
  let ']' :: ':' :: rest := rest | none
  let rest := match dropSpaces rest with
    | '\n' :: rest => dropSpaces rest
    | rest => rest
  let (word, rest) := rest.span (!isBlank ·)
  let (target, title, rest) ← targetAndEnding? word.reverse rest
  let target := dropRightWhile (· == '>') (target.dropWhile (· == '<'))
  pure ({ name := lowerChars (trim name), target, title := title.filter (!·.isEmpty) }, rest)

/-- The first definition in a block, with the text before it and the text after it.  The flag tells
whether a line starts here. -/
def find? (atStart : Bool) : List Char → Option (List Char × Reference × List Char)
  | [] => none
  | c :: cs =>
    match if atStart then atLine? (c :: cs) else none with
    | some (reference, rest) => some ([], reference, rest)
    | none => (find? (c == '\n') cs).map fun (before, found) => (c :: before, found)

/-- The reference with a name; of several definitions the last counts, which comes first in the
list. -/
def named? (references : List Reference) (name : List Char) : Option Reference :=
  references.find? (·.name = name)

end Reference

end DocTable.Markdown
