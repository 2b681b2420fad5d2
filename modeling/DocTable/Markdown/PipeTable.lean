import DocTable.Markdown.Node
import DocTable.Text.Lines

/-!
# Tables of pipes

The lines of such a table are its rows, and pipes stand between the cells.  The second row has only
dashes, and colons that align the columns.  A pipe is no border after a backslash or between the
backquotes of code.
-/

namespace DocTable.Markdown.PipeTable

open Text

/-! ### Cells of a row -/

/-- A run of backquotes in a row: the number of those that can open code, the number of those that
can close it, and the positions of its first and last character, with a backslash before it. -/
structure Quotes where
  opening : Nat
  closing : Nat
  first : Nat
  last : Nat

/-- The runs of backquotes in a row and the positions of its pipes.  The first character has the
position `i`; `run` is the run of backquotes that ends before it. -/
def marks (i : Nat) (run : Option Quotes) : List Char → List Quotes × List Nat
  | '\\' :: '\\' :: cs => flush (marks (i + 2) none cs)
  | '\\' :: '|' :: cs => flush (marks (i + 2) none cs)
  | '\\' :: '\x60' :: cs => flush (marks (i + 2) (some ⟨0, 1, i, i + 1⟩) cs)
  | '\x60' :: cs =>
    match run with
    | some q => marks (i + 1) (some ⟨q.opening + 1, q.closing + 1, q.first, i⟩) cs
    | none => marks (i + 1) (some ⟨1, 1, i, i⟩) cs
  | '|' :: cs =>
    let (quotes, pipes) := marks (i + 1) none cs
    flush (quotes, i :: pipes)
  | _ :: cs => flush (marks (i + 1) none cs)
  | [] => flush ([], [])
where
  /-- The marks after a run of backquotes, with it. -/
  flush (marks : List Quotes × List Nat) : List Quotes × List Nat :=
    (run.toList ++ marks.1, marks.2)

/-- The stretches of code in a row, from the first to the last position: a run of backquotes opens
code if a later one of its size can close it. -/
def codeStretches : Nat → List Quotes → List (Nat × Nat)
  | 0, _ => []
  | _ + 1, [] => []
  | fuel + 1, q :: quotes =>
    match quotes.span (q.opening != ·.closing) with
    | (_, closing :: rest) =>
      if q.opening = 0 then codeStretches fuel quotes
      else (q.first, closing.last) :: codeStretches fuel rest
    | (_, []) => codeStretches fuel quotes

/-- The characters before and after each of the positions, the first character having the
position `i`. -/
def splitAtPositions (positions : List Nat) (i : Nat) : List Char → List (List Char)
  | [] => [[]]
  | c :: cs =>
    if positions.contains i then [] :: splitAtPositions positions (i + 1) cs
    else extendFirst c (splitAtPositions positions (i + 1) cs)

/-- The texts between the borders within a row. -/
def splitCells (row : List Char) : List (List Char) :=
  let (quotes, pipes) := marks 0 none row
  let stretches := codeStretches quotes.length quotes
  let borders := pipes.filter fun i =>
    !stretches.any fun (first, last) => first ≤ i && i ≤ last
  splitAtPositions borders 0 row

/-- The row without the border at its end: a pipe after an even number of backslashes, and
these. -/
def dropEndBorder? (row : List Char) : Option (List Char) :=
  match row.reverse with
  | '|' :: before =>
    let (slashes, rest) := before.span (· == '\\')
    if slashes.length % 2 = 0 then some rest.reverse else none
  | _ => none

/-- A row with a border at its start or at its end. -/
def hasBorder (row : List Char) : Bool :=
  row.head? = some '|' || (dropEndBorder? row).isSome

/-- The cells of a row of a table, with or without borders at the ends of its rows. -/
def cells (bordered : Bool) (row : List Char) : List (List Char) :=
  if bordered then
    let row := if row.head? = some '|' then row.drop 1 else row
    splitCells ((dropEndBorder? row).getD row)
  else splitCells row

/-! ### Tables -/

/-- The text without the spaces at both ends. -/
def trimSpaces (cs : List Char) : List Char :=
  trimWhile (· == ' ') cs

/-- The alignment that a cell of the second row asks for. -/
def alignment (separator : List Char) : Option (List Char) :=
  let cell := trimSpaces separator
  if cell.head? = some ':' then
    some (if cell.getLast? = some ':' then "center".toList else "left".toList)
  else if cell.getLast? = some ':' then some "right".toList
  else none

/-- A table: the alignments of its columns, the cells of its head and those of its rows. -/
structure Grid where
  columns : List (Option (List Char))
  head : List (List Char)
  rows : List (List (List Char))

/-- The cells of the second row, if it separates the head of a table from its rows. -/
def separators? (bordered : Bool) (columns : Nat) (row : List Char) : Option (List (List Char)) :=
  let separators := cells bordered row
  if separators.length = columns && separators.all (·.all fun c => "|:- ".toList.contains c) then
    some separators
  else none

/-- The table that a block is.  A table of one column has a border in each of its rows. -/
def read? (block : List Char) : Option Grid :=
  match (splitOnChar '\n' block).map trimSpaces with
  | head :: second :: rows =>
    let bordered := hasBorder head
    let headCells := cells bordered head
    if 1 < headCells.length || (bordered && (second :: rows).all hasBorder) then
      (separators? bordered headCells.length second).map fun separators =>
        { columns := separators.map alignment
          head := headCells
          rows := rows.map (cells bordered) }
    else none
  | _ => none

/-- A row of cells, one in each column. -/
def rowNode (tag : Tag) (columns : List (Option (List Char))) (row : List (List Char)) : Node :=
  .element .tableRow [] (columns.zipIdx.map fun (align, i) =>
    let style := align.toList.map fun align =>
      ⟨.style, Sign.ofChars ("text-align: ".toList ++ align ++ [';'])⟩
    .element tag style (Node.ofChars (trimSpaces (row.getD i []))))

/-- The row of a table without rows. -/
def emptyRow (columns : List (Option (List Char))) : Node :=
  .element .tableRow [] (columns.map fun _ => .element .cell [] [])

/-- The element of a table. -/
def Grid.toNode (grid : Grid) : Node :=
  let rows :=
    if grid.rows.isEmpty then [emptyRow grid.columns]
    else grid.rows.map (rowNode .cell grid.columns)
  .element .table [] [
    .element .tableHead [] [rowNode .headCell grid.columns grid.head],
    .element .tableBody [] rows]

end DocTable.Markdown.PipeTable
