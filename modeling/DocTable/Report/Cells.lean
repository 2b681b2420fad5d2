import DocTable.Markup.Escape
import DocTable.Table.Basic

/-!
# The cells of the report

The markup of the cells of the table.  Every text of a symbol is escaped; only the documentation of
a cell, which is HTML already, is written as it is.  Namespaces, classes and members carry anchors:
a namespace its name, a class its full name, a member the name of its class and its own.
-/

namespace DocTable.Report

/-- Markup that is shown only if a condition holds. -/
def onlyIf (condition : Bool) (m : Markup) : Markup :=
  if condition then m else []

/-- A text in a span with a style class. -/
def span (styleClass text : String) : Markup :=
  .wrap ("<span class=\"" ++ styleClass ++ "\">") [.text text] "</span>"

/-- An anchor without content. -/
def anchor (id : List Piece) (kind : String) : Markup :=
  .wrap "<span id=\"" id ("\" class=\"dt-anchor dt-anchor-" ++ kind ++ "\"></span>\n")

/-- The content of the cell of a namespace. -/
def namespaceMarkup (name : String) : Markup :=
  anchor [.text name] "namespace"
    ++ Markup.wrap "<div class=\"dt-namespace-name\">"
      [.text (if name = "" then "(global)" else name)] "</div>"

/-- A line that relates a class to others. -/
def relation (kind word : String) (names : String) : Markup :=
  Markup.wrap ("<div class=\"dt-class-" ++ kind ++ "\"><span class=\"dt-class-modifier\">" ++ word
    ++ "</span> ") [.text names] "</div>\n"

/-- The content of the cell of a class. -/
def classMarkup (s : Symbol) : Markup :=
  anchor [.text s.fullName] "class"
    ++ .fixed "<div class=\"dt-class-name\">\n"
    :: onlyIf (!s.modifiers.isEmpty)
      (span "dt-class-modifier" (" ".intercalate s.modifiers) ++ [.fixed " "])
    ++ onlyIf (s.kind ≠ .ordinary) (span "dt-class-kind" s.kind.word ++ [.fixed " "])
    ++ [.fixed "<abbr title=\"", .text s.sourceFile, .fixed "\">", .text s.shortName,
      .fixed "</abbr>\n</div>\n"]
    ++ onlyIf (s.parent ≠ "") (relation "extend" "extends" s.parent)
    ++ onlyIf (!s.interfaces.isEmpty)
      (relation "interface" "implements" (", ".intercalate s.interfaces))

/-- The anchor of a member of the class `owner`. -/
def memberAnchor (owner : String) (m : Member) : Markup :=
  anchor [.text owner, .fixed "::", .text m.name] m.kind.word

/-- The default value of a constant or a property, and the end of its declaration. -/
def defaultMarkup (m : Member) : Markup :=
  onlyIf (m.defaultText ≠ "") (.fixed " = " :: span "dt-constant-value" m.defaultText)
    ++ [.fixed "<span class=\"dt-gray\">;</span>"]

/-- The content of the cell of a constant. -/
def constantMarkup (owner : String) (m : Member) : Markup :=
  memberAnchor owner m
    ++ span "dt-constant-modifier" (" ".intercalate m.modifiers)
    ++ .fixed "\n<span class=\"dt-constant-keyword\">const</span>\n"
    :: span "dt-constant-name" m.name
    ++ defaultMarkup m

/-- The content of the cell of a property. -/
def propertyMarkup (owner : String) (m : Member) : Markup :=
  memberAnchor owner m
    ++ span "dt-constant-modifier" (" ".intercalate m.modifiers)
    ++ .fixed "\n"
    :: onlyIf (m.type ≠ "") (span "dt-param-type" m.type ++ [.fixed " "])
    ++ Markup.wrap "<span class=\"dt-constant-name\">$" [.text m.name] "</span>"
    ++ defaultMarkup m

/-- A parameter in the list of a method. -/
def parameterMarkup (p : Parameter) (isLast : Bool) : Markup :=
  .fixed "<div class=\"dt-param-row\">"
    :: onlyIf (p.type ≠ "") (span "dt-param-type" p.type ++ [.fixed " "])
    ++ Markup.wrap "<span class=\"dt-param-name\">$" [.text p.name] "</span>"
    ++ onlyIf (p.defaultText ≠ "")
      (Markup.wrap "<span class=\"dt-param-default\"> = " [.text p.defaultText] "</span>")
    ++ onlyIf (!isLast) [.fixed "<span class=\"dt-gray\">,</span>"]
    ++ [.fixed "</div>\n"]

/-- The parameters in the list of a method. -/
def parametersMarkup : List Parameter → Markup
  | [] => []
  | p :: ps => parameterMarkup p ps.isEmpty ++ parametersMarkup ps

/-- The content of the cell of a method. -/
def methodMarkup (owner : String) (m : Member) : Markup :=
  memberAnchor owner m
    ++ span "dt-method-modifier" (" ".intercalate m.modifiers)
    ++ .fixed "\n"
    :: span "dt-method-name" m.name
    ++ .fixed "("
    :: onlyIf (!m.parameters.isEmpty)
      (Markup.wrap "<div class=\"dt-param-block\">\n" (parametersMarkup m.parameters) "</div>\n")
    ++ .fixed ")"
    :: onlyIf (m.type ≠ "")
      (Markup.wrap "<span class=\"dt-method-return\">: " [.text m.type] "</span>")

/-- The name of a class inside a namespace. -/
def qualifiedName (namespaceName className : String) : String :=
  (if namespaceName = "" then "" else namespaceName ++ "\\") ++ className

/-- What a documentation cell shows when there is nothing to show. -/
def notAvailable : Markup :=
  span "dt-doc-na" "n/a"

/-- The content of a cell in a row of the class `owner`. -/
def contentMarkup (owner : String) (cell : Cell) : Markup :=
  match cell.role, cell.subject with
  | .namespaceName, .namespaceName name => namespaceMarkup name
  | .className, .symbol s => classMarkup s
  | .constant, .member m => constantMarkup owner m
  | .property, .member m => propertyMarkup owner m
  | .method, .member m => methodMarkup owner m
  | _, _ => if cell.isEmpty then notAvailable else [.fixed cell.content]

/-- The attribute for a span of more than one row or column. -/
def spanAttribute (name : String) (n : Nat) : String :=
  if 1 < n then " " ++ name ++ "=\"" ++ toString n ++ "\"" else ""

/-- The cell of a row of the class `owner`. -/
def cellMarkup (owner : String) (cell : Cell) : Markup :=
  let striped := if cell.role = .namespaceName ∨ cell.role = .className then "" else " striped"
  .wrap
    ("<td class=\"" ++ cell.role.styleClass ++ striped ++ "\""
      ++ spanAttribute "rowspan" cell.rowSpan ++ spanAttribute "colspan" cell.colSpan ++ ">")
    (contentMarkup owner cell) "</td>"

end DocTable.Report
