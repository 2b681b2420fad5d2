import DocTable.FileTree.Access
import DocTable.Report.Page

/-!
# Templates

The page of a report is written by a template engine, which is given.  An `Engine` takes the
templates from a directory, if there is one, and those that are not there from the program.

With the templates of the program the page is that of `Report.html`.  A style sheet of the directory
takes the place of that of the program, as it is if it has no markup of templates in it
(`plainStyle?`).
-/

namespace DocTable.Report

/-- What a page shows. -/
structure Content where
  settings : Settings
  making : Making
  table : Table

/-- A template engine: it writes the page of a content, or fails with a message. -/
abbrev Engine := Disk → Option Path → Content → Except String String

/-- The names of the templates of a page, apart from its style sheet. -/
def templateNames : List String := ["report.html.j2", "macros.html.j2"]

/-- The name of the style sheet. -/
def styleName : String := "style.css"

/-- A text without the marks that begin the markup of templates. -/
def isPlainTemplate : List Char → Bool
  | '\x7b' :: c :: cs => c ≠ '\x7b' && c ≠ '%' && c ≠ '#' && isPlainTemplate (c :: cs)
  | _ :: cs => isPlainTemplate cs
  | [] => true

/-- The style sheet of a page that has the templates of the program apart from it.  There is none if
the directory has other templates, or a style sheet with markup of templates. -/
def plainStyle? (disk : Disk) : Option Path → Option String
  | none => some defaultStyle
  | some directory =>
    let find (name : String) := (disk.read (directory.child name)).toOption
    if templateNames.any fun name => (find name).isSome then none
    else
      match (find styleName).map Text.ofBytes with
      | none => some defaultStyle
      | some (.ok text) => if isPlainTemplate text.toList then some (styleOfText text) else none
      | some (.error _) => none

variable [Escaping]

/-- The HTML of a content with a style sheet. -/
def Content.html (content : Content) (style : String) : String :=
  Report.html style content.settings content.making content.table

/-- The engine writes the templates of the program as they are meant. -/
def Engine.IsFaithful (engine : Engine) : Prop :=
  ∀ disk templates content style, plainStyle? disk templates = some style →
    engine disk templates content = .ok (content.html style)

/-- The engine that knows the templates of the program and plain style sheets. -/
def plainEngine : Engine := fun disk templates content =>
  match plainStyle? disk templates with
  | some style => .ok (content.html style)
  | none => .error "the templates cannot be read"

theorem isFaithful_plainEngine :
  plainEngine.IsFaithful
  := by
  intro disk templates content style h
  rw [plainEngine, h]

end DocTable.Report
