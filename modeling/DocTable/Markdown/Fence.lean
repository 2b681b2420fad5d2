import DocTable.Markdown.Node
import DocTable.Text.Lines
import DocTable.Text.Word

/-!
# Fenced code

A fence is a line that starts with at least three backquotes or tildes.  The lines up to the same
fence are code.  After the opening fence stand the language of the code or, in braces, its
attributes.  `Part.ofLines` cuts the lines of a document into fenced code and the texts between.
-/

namespace DocTable.Markdown

open Text

/-! ### What stands after the opening fence -/

/-- An attribute of a block of code: a class, the name of the block, or anything else. -/
inductive FenceAttribute where
  | className (name : List Char)
  | id (name : List Char)
  | other

namespace FenceAttribute

/-- The attribute with a key and a value. -/
def ofPair (key value : List Char) : FenceAttribute :=
  if key = ['.'] then className value
  else if key = "id".toList then id value
  else other

/-- The attribute that a word in braces stands for. -/
def ofWord : List Char → FenceAttribute
  | '.' :: name => className name
  | '#' :: name => id name
  | word => ofPair word word

/-- A character of a word in braces. -/
def isWordChar (c : Char) : Bool :=
  c != ' ' && c != '=' && c != '\x7d'

/-- The value between two quotes at the start of a text, and the text after it. -/
def quoted? : List Char → Option (List Char × List Char)
  | mark :: rest =>
    if mark = '\x22' || mark = '\x27' then
      match rest.span (· != mark) with
      | (value, _ :: after) => some (value, after)
      | (_, []) => none
    else none
  | [] => none

/-- The attribute at the start of a text, and the text after it. -/
def read? (cs : List Char) : Option (FenceAttribute × List Char) :=
  let (key, rest) := cs.span isWordChar
  if key.isEmpty then none
  else
    match rest with
    | '=' :: value =>
      match quoted? value with
      | some (value, rest) => some (ofPair key value, rest)
      | none =>
        let (value, after) := value.span isWordChar
        if value.isEmpty then some (ofWord key, rest) else some (ofPair key value, after)
    | _ => some (ofWord key, rest)

/-- The attributes in a text, and the text after the last of them.  The number bounds the length of
the text. -/
def readAll : Nat → List Char → List FenceAttribute × List Char
  | 0, cs => ([], cs)
  | _ + 1, [] => ([], [])
  | fuel + 1, ' ' :: cs => readAll fuel cs
  | fuel + 1, cs =>
    match read? cs with
    | some (first, rest) =>
      let (more, rest) := readAll fuel rest
      (first :: more, rest)
    | none => ([], cs)

end FenceAttribute

/-- What is known of a block of code: its language, its name and its further classes; what is empty
is not known. -/
structure FenceInfo where
  language : List Char := []
  id : List Char := []
  classes : List (List Char) := []

namespace FenceInfo

/-- What the attributes tell.  The first class is the language, and the last name counts. -/
def ofAttributes (attributes : List FenceAttribute) : FenceInfo :=
  let classes := attributes.filterMap fun | .className name => some name | _ => none
  let ids := attributes.filterMap fun | .id name => some name | _ => none
  { language := classes.headD [], id := ids.getLastD [], classes := classes.drop 1 }

/-- A character of the name of a language. -/
def isLanguageChar (c : Char) : Bool :=
  isWord c || c == '#' || c == '.' || c == '+' || c == '-'

/-- A text of spaces only. -/
def allSpaces (cs : List Char) : Bool :=
  cs.all (· == ' ')

/-- The lines after the first one with the mark at its end, spaces apart. -/
def afterMark? (mark : Char) : List (List Char) → Option (List (List Char))
  | [] => none
  | line :: lines =>
    if (line.reverse.dropWhile (· == ' ')).head? = some mark then some lines
    else afterMark? mark lines

/-- The lines after the part that may follow a language: nothing, or a list of lines to highlight,
which is a text between quotes and may go on for some lines. -/
def afterRemark? (cs : List Char) (lines : List (List Char)) : Option (List (List Char)) :=
  let cs := cs.dropWhile (· == ' ')
  let key := "hl_lines=".toList
  if cs.isEmpty then some lines
  else if key.isPrefixOf cs then
    match cs.drop key.length with
    | mark :: rest =>
      if mark = '\x22' || mark = '\x27' then afterMark? mark (rest :: lines) else none
    | [] => none
  else none

/-- The longest part of `word`, read from its end, after which a remark may follow, and the lines
after the remark.  The text `rest` follows the word. -/
def language? (lines : List (List Char)) :
    List Char → List Char → Option (FenceInfo × List (List Char))
  | word, rest =>
    match afterRemark? rest lines with
    | some lines => some ({ language := word.reverse }, lines)
    | none =>
      match word with
      | [] => none
      | c :: word => language? lines word (c :: rest)

/-- What the text after an opening fence tells, if it may stand there, and the lines of `lines`
after it. -/
def ofText? (cs : List Char) (lines : List (List Char)) :
    Option (FenceInfo × List (List Char)) :=
  let plain (_ : Unit) :=
    let cs := match cs with
      | '.' :: cs => cs
      | cs => cs
    let (word, rest) := cs.span isLanguageChar
    language? lines word.reverse rest
  match cs, cs.getLast? with
  | '\x7b' :: inner, some '\x7d' =>
    let (attributes, rest) :=
      FenceAttribute.readAll inner.length inner.dropLast
    if rest.contains '\x7d' then none else some (ofAttributes attributes, lines)
  | _, _ => plain ()

end FenceInfo

/-! ### Blocks of code -/

/-- A character of code, written as a character reference if it has a meaning in HTML. -/
def fencedChar (c : Char) : Node :=
  if c = '&' then .entity .code ['a', 'm', 'p']
  else if c = '<' then .entity .code ['l', 't']
  else if c = '>' then .entity .code ['g', 't']
  else if c = '\x22' then .entity .code ['q', 'u', 'o', 't']
  else .char c

/-- The element of a block of code. -/
def FenceInfo.toNode (info : FenceInfo) (lines : List (List Char)) : Node :=
  let known (name : AttributeName) (value : List Char) : List Attribute :=
    if value.isEmpty then [] else [⟨name, Sign.ofChars value⟩]
  let classes :=
    if info.classes.isEmpty then []
    else [⟨.className, Sign.ofChars ([' '].intercalate info.classes)⟩]
  let language :=
    if info.language.isEmpty then [] else "language-".toList ++ info.language
  .element .fenced (known .id info.id ++ classes)
    [.element .code (known .className language)
      ((lines.flatMap (· ++ ['\n'])).map fencedChar)]

/-- The fence at the start of a line, and the text after it and its spaces. -/
def fence? : List Char → Option (List Char × List Char)
  | [] => none
  | mark :: cs =>
    let (more, rest) := cs.span (· == mark)
    if (mark = '\x60' || mark = '~') && 2 ≤ more.length then
      some (mark :: more, rest.dropWhile (· == ' '))
    else none

/-- The lines before the closing fence, and the lines after it. -/
def cutFence (fence : List Char) :
    List (List Char) → Option (List (List Char) × List (List Char))
  | [] => none
  | line :: lines =>
    if fence.isPrefixOf line && FenceInfo.allSpaces (line.drop fence.length) then some ([], lines)
    else (cutFence fence lines).map fun (code, rest) => (line :: code, rest)

/-- The block of code that starts with a line, and the lines after it. -/
def fencedCode? (line : List Char) (lines : List (List Char)) :
    Option (Node × List (List Char)) := do
  let (fence, after) ← fence? line
  let (info, lines) ← FenceInfo.ofText? after lines
  let (code, rest) ← cutFence fence lines
  pure (info.toNode code, rest)

/-- A part of a document. -/
inductive Part where
  | text (cs : List Char)
  /-- A block of fenced code. -/
  | code (node : Node)

/-- The parts of a document, given the lines before `lines` that are in no part yet, the last of
them first.  The number bounds the number of lines. -/
def Part.ofLines (before : List (List Char)) : Nat → List (List Char) → List Part
  | _, [] => [.text (joinLines before.reverse)]
  | 0, lines => [.text (joinLines (before.reverse ++ lines))]
  | fuel + 1, line :: lines =>
    match fencedCode? line lines with
    | some (node, rest) =>
      .text (joinLines (before.reverse ++ [[], []])) :: .code node :: ofLines [] fuel rest
    | none => ofLines (line :: before) fuel lines

end DocTable.Markdown
