import DocTable.Comment.Content
import DocTable.Comment.Sections
import DocTable.Comment.TagBody
import DocTable.DocBlock

/-!
# Reading comments

`DocBlock.ofComment` reads a structured comment.  Reading never fails: a comment without content
is the empty block, and a tag that cannot be read is kept as it is written.  `Comment.tags` lists
the tags in the order of the comment; the block groups them by their lower-cased names.
-/

namespace DocTable

/-- The tags of the lines of a comment, in order. -/
def Comment.tags (lines : List (List Char)) : List Tag :=
  (sections lines).2.map fun chunk => Tag.ofBody (String.ofList chunk.name) chunk.body

/-- The block of the lines of a comment. -/
def DocBlock.ofLines (lines : List (List Char)) : DocBlock :=
  let text := (Comment.sections lines).1
  { summary := String.ofList (Text.joinLines (Comment.summaryLines text))
    description := String.ofList (Comment.description text)
    tags := groupBy (fun tag => Text.lower tag.name) (Comment.tags lines) }

/-- The block of a structured comment. -/
def DocBlock.ofComment (raw : String) : DocBlock :=
  .ofLines (Comment.contentLines raw.toList)

/-- The block of a comment that may be missing. -/
def DocBlock.ofComment? (raw : Option String) : DocBlock :=
  (raw.map DocBlock.ofComment).getD .empty

end DocTable
