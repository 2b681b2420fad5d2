import DocTable.Catalog
import DocTable.Markup.Escape
import DocTable.Table.Basic

/-!
# Table layout

`Table.build` lays out the symbols of a snapshot.  A class with members has a row for its own
documentation, if there is any, and one row for each member; a class without members has none.  The
cell of a namespace and the cell of a class stand on the first row of their group and span all its
rows, which are counted beforehand.
-/

namespace DocTable

/-- The number of rows of a symbol. -/
def Symbol.rowCount (s : Symbol) : Nat :=
  if s.hasMembers then
    s.constants.size + s.properties.size + s.methods.size + (if s.docBlock.isEmpty then 0 else 1)
  else 0

/-- The number of rows of the symbols of a namespace. -/
def namespaceRowCount (symbols : OrderedMap String Symbol) : Nat :=
  (symbols.values.map Symbol.rowCount).foldr (· + ·) 0

namespace MemberKind

/-- The role of the cell of a member. -/
def role : MemberKind → CellRole
  | .constant => .constant
  | .property => .property
  | .method => .method

/-- The kind of the row of a member. -/
def rowKind : MemberKind → RowKind
  | .constant => .constant
  | .property => .property
  | .method => .method

end MemberKind

namespace Table

variable [Escaping]

/-- The row of the documentation of a symbol itself. -/
def summaryRow (formatDoc : DocBlock → String) (s : Symbol) : Row where
  kind := .classSummary
  namespaceName := s.namespaceName
  className := s.shortName
  cells := [{
    role := .classDocs, content := formatDoc s.docBlock, colSpan := 2, subject := .symbol s }]
  docBlock := s.docBlock

/-- The row of a member of a symbol. -/
def memberRow (formatDoc : DocBlock → String) (s : Symbol) (m : Member) : Row where
  kind := m.kind.rowKind
  namespaceName := s.namespaceName
  className := s.shortName
  cells := [
    { role := m.kind.role, content := escapeText m.name, subject := .member m },
    { role := .docs
      content := if m.docBlock.isEmpty then "" else formatDoc m.docBlock
      subject := .member m
      isEmpty := m.docBlock.isEmpty }]
  docBlock := m.docBlock

/-- The rows of a symbol without the cells of its groups. -/
def ownRows (formatDoc : DocBlock → String) (s : Symbol) : List Row :=
  (if s.docBlock.isEmpty then [] else [summaryRow formatDoc s])
    ++ s.members.map (memberRow formatDoc s)

/-- The cell of a symbol. -/
def classCell (s : Symbol) : Cell where
  role := .className
  content := escapeText s.shortName
  rowSpan := s.rowCount
  subject := .symbol s

/-- The cell of a namespace. -/
def namespaceCell (name : String) (symbols : OrderedMap String Symbol) : Cell where
  role := .namespaceName
  content := escapeText name
  rowSpan := namespaceRowCount symbols
  subject := .namespaceName name

/-- The row with the cells that wait for it in front; a row that gets the cell of a class starts
its group. -/
def lead (waiting classCell : Option Cell) (row : Row) : Row :=
  { row with
    cells := waiting.toList ++ classCell.toList ++ row.cells
    startsGroup := classCell.isSome || row.startsGroup }

/-- The rows of a symbol with the cells that wait for the first of them, and the cell of the
namespace if it waits on. -/
def place (waiting classCell : Option Cell) : List Row → List Row × Option Cell
  | [] => ([], waiting)
  | row :: rows =>
    let (placed, left) := place none none rows
    (lead waiting classCell row :: placed, left)

/-- The rows of some symbols of a namespace, the cell of which waits for its first row. -/
def symbolRows (formatDoc : DocBlock → String) (waiting : Option Cell) : List Symbol → List Row
  | [] => []
  | s :: symbols =>
    if s.rowCount = 0 then symbolRows formatDoc waiting symbols
    else
      let (rows, left) := place waiting (some (classCell s)) (ownRows formatDoc s)
      rows ++ symbolRows formatDoc left symbols

/-- The rows of a namespace. -/
def namespaceRows (formatDoc : DocBlock → String) (name : String)
    (symbols : OrderedMap String Symbol) : List Row :=
  symbolRows formatDoc (some (namespaceCell name symbols)) symbols.values

/-- The table of a snapshot. -/
def build (snapshot : Snapshot) (formatDoc : DocBlock → String) : Table :=
  snapshot.entries.flatMap fun (name, symbols) => namespaceRows formatDoc name symbols

end Table

end DocTable
