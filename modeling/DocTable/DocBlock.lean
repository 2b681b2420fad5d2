import DocTable.OrderedMap
import DocTable.Tag

/-!
# Documentation blocks

`DocBlock` is what a structured comment says: a summary, a description and tags, grouped by the
lower-cased names.  A symbol without a comment carries the empty block.
-/

namespace DocTable

/-- A parsed structured comment. -/
structure DocBlock where
  summary : String := ""
  description : String := ""
  /-- The tags of each kind; kinds and tags stand in the order in which they first appear. -/
  tags : OrderedMap String (List Tag) := .empty
  deriving DecidableEq

namespace DocBlock

/-- The block of a symbol without a comment. -/
def empty : DocBlock := {}

instance : Inhabited DocBlock := ⟨empty⟩

/-- A block with nothing to show: no summary and no kind of tag. -/
def isEmpty (block : DocBlock) : Bool :=
  block.summary = "" && block.tags.isEmpty

/-- All tags, kind by kind. -/
def allTags (block : DocBlock) : List Tag :=
  block.tags.values.flatten

end DocBlock

end DocTable
