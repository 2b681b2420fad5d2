import DocTable.Markup.Escape
import DocTable.Text.Lines

/-!
# Plain text as markup

`Markup.ofPlain` shows a text as it is: its lines are escaped and its line breaks are kept.
-/

namespace DocTable

/-- The lines of a text with breaks between them. -/
def Markup.ofPlain (s : String) : Markup :=
  .join "<br>\n" ((Text.splitLines s.toList).map fun line => [.text (String.ofList line)])

/-- The HTML of a plain text. -/
def plainHtml [Escaping] (s : String) : String :=
  (Markup.ofPlain s).toHtml

end DocTable
