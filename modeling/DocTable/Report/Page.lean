import DocTable.Calendar
import DocTable.Report.Cells
import DocTable.Report.Style

/-!
# The page of the report

`Report.html` writes a table as a page of its own: the style sheet in its head, a title, the table,
and a footer with the version of the program and the time of creation.
-/

namespace DocTable.Report

/-- The title of a page unless another one is given. -/
def defaultTitle : String := "DocTracer"

/-- The tagline of a page unless another one is given. -/
def defaultTagline : String := "API documentation generator"

/-- The settings of a page. -/
structure Settings where
  title : String := defaultTitle
  tagline : String := defaultTagline
  footer : String := ""
  theme : String := "default"
  /-- Rules that follow the style sheet, written as they are. -/
  customStyle : String := ""
  deriving DecidableEq, Repr

/-- The text of the footer: by default the title and the tagline. -/
def Settings.footerText (settings : Settings) : String :=
  if settings.footer = "" then settings.title ++ " - " ++ settings.tagline else settings.footer

/-- What the footer of a page tells of how the page was made. -/
structure Making where
  /-- The version of the program. -/
  version : String
  created : DateTime

/-- A row of the table. -/
def rowMarkup (row : Row) : Markup :=
  let owner := qualifiedName row.namespaceName row.className
  .wrap
    ("            <tr class=\"dt-row-" ++ row.kind.word
      ++ (if row.startsGroup then " dt-group-start" else "") ++ "\">\n")
    (row.cells.flatMap fun cell => Markup.wrap "                " (cellMarkup owner cell) "\n")
    "            </tr>\n"

/-- The row that stands in a table without rows. -/
def placeholderRow : Markup :=
  [.fixed ("            <tr><td colspan=\"4\" class=\"dt-empty dt-gray\">"
    ++ "No documented symbols found.</td></tr>\n")]

/-- The body of the table. -/
def bodyMarkup (table : Table) : Markup :=
  .wrap "<tbody>\n" (if table.isEmpty then placeholderRow else table.flatMap rowMarkup)
    "        </tbody>"

/-- The page up to the body of the table. -/
def headMarkup (style : String) (settings : Settings) : Markup := [
  .fixed "<!DOCTYPE html>\n<html dir=\"ltr\" lang=\"en\" class=\"docTracer dt-th-",
  .text settings.theme,
  .fixed ("\">\n<head>\n    <meta charset=\"UTF-8\">\n"
    ++ "    <meta name=\"viewport\" content=\"width=device-width, initial-scale=1.0\">\n"
    ++ "    <title>"),
  .text settings.title,
  .fixed (" Documentation</title>\n    <style>\n" ++ style
    ++ (if settings.customStyle = "" then "" else settings.customStyle ++ "\n")
    ++ "    </style>\n</head>\n<body>\n<div id=\"docTracer\" class=\"dt-wrapper\">\n"
    ++ "    <h1 class=\"dt-head\">"),
  .text settings.title,
  .fixed " <span class=\"dt-tagline\">",
  .text settings.tagline,
  .fixed ("</span></h1>\n\n    <table class=\"dt-table\">\n        <thead>\n            <tr>\n"
    ++ "                <th class=\"dt-col-namespace\">Namespace</th>\n"
    ++ "                <th class=\"dt-col-class\">Class</th>\n"
    ++ "                <th class=\"dt-col-member\">Constant | Property | Method</th>\n"
    ++ "                <th class=\"dt-col-docs\">Documentation</th>\n"
    ++ "            </tr>\n        </thead>\n        ")]

/-- The page after the body of the table. -/
def tailMarkup (settings : Settings) (making : Making) : Markup := [
  .fixed "\n    </table>\n\n    <div class=\"dt-footer dt-gray\">\n        ",
  .text settings.footerText,
  .fixed "<br>\n        Generated by DocTracer v",
  .text making.version,
  .fixed " at <span class=\"dt-created\">",
  .text (making.created.toWholeSecond.text "T"),
  .fixed ("</span>\n    </div>\n    <a class=\"dt-toTop\" href=\"#docTracer\">^Top</a>\n</div>\n"
    ++ "</body>\n</html>")]

/-- The page of a table, with a style sheet. -/
def page (style : String) (settings : Settings) (making : Making) (table : Table) : Markup :=
  headMarkup style settings ++ bodyMarkup table ++ tailMarkup settings making

/-- The HTML of a page. -/
def html [Escaping] (style : String) (settings : Settings) (making : Making) (table : Table) :
    String :=
  (page style settings making table).toHtml

end DocTable.Report
