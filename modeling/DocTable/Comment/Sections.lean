import DocTable.Text.Lines
import DocTable.Text.Word

/-!
# The sections of a comment

The lines of a comment are a free text followed by tags.  A tag starts at a line that begins with
an at sign and a tag name, and goes on to the next such line.  Fence lines switch between text and
code, and no tag starts at a fence line or in code.  The free text is a summary up to the first
blank line and a description after it.
-/

namespace DocTable.Comment

open Text

/-- A tag with the lines of its body. -/
structure Chunk where
  name : List Char
  lines : List (List Char)
  deriving DecidableEq

/-- A line that begins with a fence of backticks or tildes. -/
def isFence (line : List Char) : Bool :=
  match trimLeft line with
  | '\x60' :: '\x60' :: '\x60' :: _ => true
  | '~' :: '~' :: '~' :: _ => true
  | _ => false

/-- A character that a tag name starts with. -/
def isTagStart (c : Char) : Bool :=
  isAsciiLetter c || c == '_' || c == '\\'

/-- A character that continues a tag name. -/
def isTagChar (c : Char) : Bool :=
  isWord c || c == '\\' || c == ':' || c == '-'

/-- The name of the tag that starts at a line, and the rest of the line. -/
def tagLine? (line : List Char) : Option (List Char × List Char) :=
  match trimLeft line with
  | '@' :: c :: rest =>
    if isTagStart c then some (c :: rest.takeWhile isTagChar, rest.dropWhile isTagChar) else none
  | _ => none

/-- The lines before the first tag and the tags after them; `code` says whether the lines start
inside fenced code. -/
def sectionsFrom (code : Bool) : List (List Char) → List (List Char) × List Chunk
  | [] => ([], [])
  | line :: lines =>
    let fence := isFence line
    let (text, chunks) := sectionsFrom (code != fence) lines
    match if fence || code then none else tagLine? line with
    | some (name, rest) => ([], ⟨name, rest :: text⟩ :: chunks)
    | none => (line :: text, chunks)

/-- The free text of a comment and its tags. -/
def sections (lines : List (List Char)) : List (List Char) × List Chunk :=
  sectionsFrom false lines

/-- The body of a tag: its lines joined, without the blanks at both ends. -/
def Chunk.body (chunk : Chunk) : List Char :=
  trim (joinLines chunk.lines)

/-- The lines of the summary, each without the blanks around it. -/
def summaryLines (text : List (List Char)) : List (List Char) :=
  (text.takeWhile (!allBlank ·)).map trim

/-- The description: what follows the first blank line. -/
def description (text : List (List Char)) : List Char :=
  trim (joinLines (text.dropWhile (!allBlank ·)))

end DocTable.Comment
