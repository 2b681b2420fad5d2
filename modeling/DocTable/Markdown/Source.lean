import DocTable.Text.Blank
import DocTable.Text.Lines

/-!
# The lines of a document

`sourceLines` prepares a text for reading: the control characters 2 and 3 are taken out, line breaks
are made alike, tabs are filled up to the next multiple of four columns, and lines of spaces are
emptied.  Two empty lines end the document.
-/

namespace DocTable.Markdown

open Text

/-- The text with tabs filled up with spaces; the first character stands in column `column`. -/
def expandTabs (column : Nat) : List Char → List Char
  | [] => []
  | '\t' :: cs =>
    List.replicate (4 - column % 4) ' ' ++ expandTabs (column + (4 - column % 4)) cs
  | c :: cs => c :: expandTabs (if c = '\n' then 0 else column + 1) cs

/-- The line, or an empty one if it has only spaces. -/
def emptyIfSpaces (line : List Char) : List Char :=
  if line.all (· == ' ') then [] else line

/-- The lines of a document; the first of them keeps its spaces. -/
def sourceLines (cs : List Char) : List (List Char) :=
  let text := unifyBreaks (cs.filter fun c => c != '\x02' && c != '\x03')
  match splitOnChar '\n' (expandTabs 0 text ++ ['\n', '\n']) with
  | [] => []
  | line :: lines => line :: lines.map emptyIfSpaces

/-- The blocks of a text: what stands between its empty lines. -/
def blocksOf : List Char → List (List Char)
  | [] => [[]]
  | '\n' :: '\n' :: cs => [] :: blocksOf cs
  | c :: cs => extendFirst c (blocksOf cs)

end DocTable.Markdown
