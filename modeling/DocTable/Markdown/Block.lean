import DocTable.Markdown.PipeTable
import DocTable.Markdown.Reference
import DocTable.Markdown.Source
import DocTable.Text.Word

/-!
# Blocks

`Block.read` tells what a block is: blank lines, code, a table, a heading, a rule, a list, a quote,
the definition of a reference or a paragraph.  Where the piece that gives a block its kind starts
only at a later line, the block is told apart into what comes before it and what comes after it.
-/

namespace DocTable.Markdown

open Text

/-! ### Lines and their indentation -/

/-- A text that starts with four spaces. -/
def isIndented (cs : List Char) : Bool :=
  (List.replicate 4 ' ').isPrefixOf cs

/-- The number of spaces at the start of a line. -/
def indentation (line : List Char) : Nat :=
  (line.takeWhile (· == ' ')).length

/-- A text in which every line that starts with four times `level` spaces is without these. -/
def outdent (level : Nat) (cs : List Char) : List Char :=
  joinLines ((splitOnChar '\n' cs).map fun line =>
    if (List.replicate (4 * level) ' ').isPrefixOf line then line.drop (4 * level) else line)

/-- The lines of code at the start of a block, without their indentation, and the lines
after them. -/
def cutCode : List (List Char) → List (List Char) × List (List Char)
  | [] => ([], [])
  | line :: lines =>
    if isIndented line || allBlank line then
      let (code, rest) := cutCode lines
      ((if isIndented line then line.drop 4 else []) :: code, rest)
    else ([], line :: lines)

/-! ### Headings and rules -/

/-- The text of a heading after the marks at its start: without the number signs at its end, none
of which is escaped.  A backslash at its end makes it no heading. -/
def headingText? : List Char → Option (List Char)
  | [] => some []
  | ['\\'] => none
  | '\\' :: c :: cs => (headingText? cs).map ('\\' :: c :: ·)
  | c :: cs => if c = '#' && cs.all (· == '#') then some [] else (headingText? cs).map (c :: ·)

/-- The level, counted from zero, and the text of a heading that a line is. -/
def headingLine? (line : List Char) : Option (Fin 6 × List Char) :=
  match (line.takeWhile (· == '#')).length with
  | 0 => none
  | marks + 1 =>
    let level : Fin 6 := ⟨min 5 marks, by omega⟩
    (headingText? (line.drop (level + 1))).map fun text => (level, trim text)

/-- The level, counted from zero, that a line gives as a heading to the line above it. -/
def underline? (line : List Char) : Option (Fin 6) :=
  let marks := dropRightWhile (· == ' ') line
  if marks.isEmpty || !marks.all (fun c => c == '=' || c == '-') then none
  else if marks.head? = some '=' then some 0
  else some 1

/-- A line of marks with at most two spaces between neighbours, and any number after the last. -/
def isMarkLine (mark : Char) (spaces : Nat) : List Char → Bool
  | [] => true
  | c :: cs =>
    if c = mark then spaces ≤ 2 && isMarkLine mark 0 cs
    else c == ' ' && isMarkLine mark (spaces + 1) cs

/-- A line that is a rule: at least three marks of one kind. -/
def isRule (line : List Char) : Bool :=
  indentation line ≤ 3 && ['-', '_', '*'].any fun mark =>
    3 ≤ line.count mark && isMarkLine mark 0 (line.drop (indentation line))

/-! ### Items of lists -/

/-- The kind of list that a mark starts, and the text after the mark, after the spaces at the start
of a line. -/
def itemMark? (cs : List Char) : Option (Tag × List Char) :=
  let (tag, rest) := match cs with
    | [] => (Tag.bulletList, [])
    | c :: rest =>
      if c == '*' || c == '+' || c == '-' then (Tag.bulletList, rest)
      else
        match cs.span isDecimalDigit with
        | (_ :: _, '.' :: rest) => (Tag.numberedList, rest)
        | _ => (Tag.bulletList, [])
  match rest with
  | ' ' :: rest => some (tag, rest.dropWhile (· == ' '))
  | _ => none

/-- The kind of list that a line starts, and the text of the item there. -/
def itemLine? (line : List Char) : Option (Tag × List Char) :=
  if indentation line ≤ 3 then itemMark? (line.drop (indentation line)) else none

/-- A line that starts an item of a list within an item. -/
def isInnerItem (line : List Char) : Bool :=
  let n := indentation line
  4 ≤ n && n ≤ 7 && (itemMark? (line.drop n)).isSome

/-- The texts of the items of a list, given the lines of the item that is being read, the last of
them first.  The items of a list within an item are kept together, with their indentation. -/
def listItems (current : List (List Char)) : List (List Char) → List (List Char)
  | [] => [joinLines current.reverse]
  | line :: lines =>
    match itemLine? line with
    | some (_, text) => joinLines current.reverse :: listItems [text] lines
    | none =>
      if isInnerItem line && !isIndented (joinLines current.reverse) then
        joinLines current.reverse :: listItems [line] lines
      else listItems (line :: current) lines

/-! ### Quotes -/

/-- The text after the mark of a quote, if a line has one. -/
def quoteLine? (line : List Char) : Option (List Char) :=
  if indentation line ≤ 3 then
    match line.drop (indentation line) with
    | '>' :: ' ' :: rest => some rest
    | '>' :: rest => some rest
    | _ => none
  else none

/-- A line of a quote without its mark. -/
def unquoteLine (line : List Char) : List Char :=
  if trim line = ['>'] then [] else (quoteLine? line).getD line

/-! ### Kinds of blocks -/

/-- What a block is. -/
inductive Block where
  /-- Empty lines, given by their breaks, and what comes after them. -/
  | blank (breaks rest : List Char)
  /-- A continuation of the list before it. -/
  | continuation
  | code (text rest : List Char)
  | table (grid : PipeTable.Grid)
  | heading (before : List Char) (level : Fin 6) (text after : List Char)
  | underlined (level : Fin 6) (text after : List Char)
  | rule (before after : List Char)
  | list (tag : Tag) (items : List (List Char))
  | quote (before text : List Char)
  | definition (before : List Char) (reference : Reference) (after : List Char)
  | paragraph

namespace Block

/-- The first line for which `f` has a value, with the lines before it and after it. -/
def findLine {α : Type} (f : List Char → Option α) :
    List (List Char) → Option (List (List Char) × α × List (List Char))
  | [] => none
  | line :: lines =>
    match f line with
    | some a => some ([], a, lines)
    | none => (findLine f lines).map fun (before, found) => (line :: before, found)

/-- The code that a block starts with. -/
def code? (cs : List Char) : Option Block :=
  if isIndented cs then
    let (lines, rest) := cutCode (splitOnChar '\n' cs)
    some (.code (joinLines lines) (joinLines rest))
  else none

/-- The heading in a block that starts with number signs. -/
def heading? (lines : List (List Char)) : Option Block :=
  (findLine headingLine? lines).map fun (before, (level, text), after) =>
    .heading (joinLines before) level text (joinLines after)

/-- The heading at the start of a block whose second line underlines the first. -/
def underlined? : List (List Char) → Option Block
  | first :: second :: rest =>
    (underline? second).map fun level => .underlined level (trim first) (joinLines rest)
  | _ => none

/-- The rule in a block. -/
def rule? (lines : List (List Char)) : Option Block :=
  (findLine (fun line => if isRule line then some () else none) lines).map fun (before, _, after) =>
    .rule (dropRightWhile (· == '\n') (joinLines before))
      ((joinLines after).dropWhile (· == '\n'))

/-- The list that a block is. -/
def list? : List (List Char) → Option Block
  | [] => none
  | line :: lines => (itemLine? line).map fun (tag, text) => .list tag (listItems [text] lines)

/-- The quote in a block.  It goes on to the end of the block. -/
def quote? (lines : List (List Char)) : Option Block :=
  (findLine (fun line => (quoteLine? line).map fun _ => unquoteLine line) lines).map
    fun (before, first, after) =>
      let quoted := first :: after.map unquoteLine
      .quote (joinLines before) (joinLines (if before.isEmpty then quoted else [] :: quoted))

/-- The definition of a reference in a block. -/
def definition? (cs : List Char) : Option Block :=
  (Reference.find? true cs).map fun (before, reference, after) => .definition before reference after

/-- What a block is.  The flags tell whether the block continues a list if it is indented, and
whether a quote may begin in it. -/
def read (continuesList admitsQuote : Bool) (cs : List Char) : Block :=
  match cs with
  | [] => .blank ['\n', '\n'] []
  | '\n' :: rest => .blank ['\n'] rest
  | cs =>
    let lines := splitOnChar '\n' cs
    if continuesList && isIndented cs then .continuation
    else
      (code? cs <|> (PipeTable.read? cs).map Block.table <|> heading? lines <|> underlined? lines
        <|> rule? lines <|> list? lines <|> (if admitsQuote then quote? lines else none)
        <|> definition? cs).getD .paragraph

end Block

end DocTable.Markdown
