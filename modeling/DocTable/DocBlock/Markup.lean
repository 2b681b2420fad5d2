import DocTable.DocBlock
import DocTable.Markup.Escape

/-!
# Documentation blocks as markup

`DocBlock.toMarkup` shows a block: the summary, the description and one small table for each kind of
tag.  The free texts go through a function that turns them into HTML; the texts of tags are
escaped.
-/

namespace DocTable

/-- The members of a union type, each in a span, with bars between them. -/
def typesMarkup (types : List String) : Markup :=
  .join "<span>|</span>" (types.map fun t => .wrap "<span>" [.text t] "</span>")

/-- A cell of the table of tags. -/
def tagCell (role : String) (content : Markup) : Markup :=
  .wrap ("<td class=\"dt-doc-tag-" ++ role ++ "\">") content "</td>"

/-- The row of a tag: its name and then what its class shows. -/
def Tag.row (tag : Tag) : Markup :=
  let cells := tagCell "name" [.fixed "@", .text tag.name] ++ match tag with
    | .param tag =>
      tagCell "type" (typesMarkup tag.types) ++ tagCell "variable" [.text tag.signature]
        ++ tagCell "description" [.text tag.description]
    | .typed tag =>
      tagCell "type" (typesMarkup tag.types) ++ tagCell "description" [.text tag.description]
    | .generic tag => tagCell "render" [.text tag.rendered]
  .wrap "<tr>" cells "</tr>"

namespace DocBlock

/-- The table of the tags of one kind. -/
def tagTable (kind : String) (tags : List Tag) : Markup :=
  [.fixed "<table class=\"dt-doc-tags-table dt-tags-table-", .text kind, .fixed "\">"]
    ++ tags.flatMap Tag.row ++ [.fixed "</table>"]

/-- The markup of a block; an empty block shows nothing, not even a description. -/
def toMarkup (textHtml : String → String) (block : DocBlock) : Markup :=
  if block.isEmpty then []
  else
    Markup.wrap "<div class=\"dt-doc-summary\">" [.fixed (textHtml block.summary)] "</div>"
      ++ (if block.description = "" then []
          else Markup.wrap "<div class=\"dt-doc-description\">"
            [.fixed (textHtml block.description)] "</div>")
      ++ block.tags.entries.flatMap fun (kind, tags) => tagTable kind tags

/-- The HTML of a block. -/
def toHtml [Escaping] (textHtml : String → String) (block : DocBlock) : String :=
  (block.toMarkup textHtml).toHtml

end DocBlock

end DocTable
