import DocTable.Text.Lines

/-!
# The content of a comment

`Comment.contentLines` takes the layout off a structured comment: the delimiters around it and, on
every line, the indentation, one star and one blank after the star.  What remains are the lines of
its text, without blanks at their ends and without blank lines at the start and at the end.
-/

namespace DocTable.Comment

open Text

/-- The text between the delimiters of a comment, blanks around the comment left out. -/
def inner (raw : List Char) : List Char :=
  let text := trim raw
  let text := match text with
    | '/' :: '*' :: '*' :: rest => rest
    | '/' :: '*' :: rest => rest
    | _ => text
  match text.reverse with
  | '/' :: '*' :: rest => rest.reverse
  | _ => text

/-- A line without its indentation, a star that no text touches, and one blank after it. -/
def undecorate (line : List Char) : List Char :=
  match line.dropWhile isSpaceOrTab with
  | ['*'] => []
  | '*' :: c :: rest => if isSpaceOrTab c then rest else '*' :: c :: rest
  | rest => rest

/-- The lines without the empty lines before the first and after the last one that has text. -/
def trimLines (lines : List (List Char)) : List (List Char) :=
  ((lines.dropWhile List.isEmpty).reverse.dropWhile List.isEmpty).reverse

/-- The lines of the text of a comment. -/
def contentLines (raw : List Char) : List (List Char) :=
  trimLines ((splitLines (inner raw)).map fun line => trimRight (undecorate line))

end DocTable.Comment
