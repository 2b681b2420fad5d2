import DocTable.Symbol

/-!
# The table

The report shows symbols in one table of four columns: namespace, class, member and documentation.
A cell may span rows and columns, so a row holds only the cells that start in it.
-/

namespace DocTable

/-- What a cell shows. -/
inductive CellRole where
  | namespaceName
  | className
  | classDocs
  | constant
  | property
  | method
  | docs
  deriving DecidableEq, Repr

namespace CellRole

/-- The word for a role. -/
def word : CellRole → String
  | .namespaceName => "namespace"
  | .className => "class"
  | .classDocs => "class-docs"
  | .constant => "constant"
  | .property => "property"
  | .method => "method"
  | .docs => "docblock"

/-- The style class of the cells of a role. -/
def styleClass (role : CellRole) : String :=
  "dt-" ++ role.word

end CellRole

/-- What a row is for. -/
inductive RowKind where
  | classSummary
  | constant
  | property
  | method
  deriving DecidableEq, Repr

/-- The word for a kind of row. -/
def RowKind.word : RowKind → String
  | .classSummary => "class-summary"
  | .constant => "constant"
  | .property => "property"
  | .method => "method"

/-- What a cell describes. -/
inductive Subject where
  | namespaceName (name : String)
  | symbol (s : Symbol)
  | member (m : Member)
  deriving DecidableEq

/-- A cell of the table. -/
structure Cell where
  role : CellRole
  /-- The HTML of the cell. -/
  content : String
  rowSpan : Nat := 1
  colSpan : Nat := 1
  subject : Subject
  /-- The cell is for documentation, and there is none. -/
  isEmpty : Bool := false
  deriving DecidableEq

/-- A row of the table, with the cells that start in it. -/
structure Row where
  kind : RowKind
  namespaceName : String
  className : String
  cells : List Cell
  /-- The row is the first of its class. -/
  startsGroup : Bool := false
  docBlock : DocBlock := .empty
  deriving DecidableEq

/-- The first cell of a role. -/
def Row.cell? (row : Row) (role : CellRole) : Option Cell :=
  row.cells.find? (·.role = role)

/-- The rows in order. -/
abbrev Table := List Row

end DocTable
