import DocTable.Proofs.Comment.Sections
import DocTable.Proofs.Comment.TagBody
import DocTable.Proofs.Grouping
import DocTable.Proofs.Text.Lines
import Mathlib.Data.List.Forall2

/-!
# Reading a comment loses no text

The text of a comment goes into its summary, its description and its tags, and all that may be lost
on the way or be added are blanks.  `sectionsFrom` conserves the lines, one after the other, and a
tag has the words of its body (`words_rendered`).
-/

namespace DocTable

open Text

namespace Comment

/-! ### Sections -/

/-- The characters of a tag that are no blanks. -/
def Chunk.solid (chunk : Chunk) : List Char :=
  Text.solid ('@' :: chunk.name) ++ chunk.lines.flatMap Text.solid

theorem solid_sectionsFrom (code : Bool) (lines : List (List Char)) :
  (sectionsFrom code lines).1.flatMap solid ++ (sectionsFrom code lines).2.flatMap Chunk.solid
    = lines.flatMap solid
  := by
  induction lines generalizing code with
  | nil => rfl
  | cons line lines ih =>
    have hrest := ih (code != isFence line)
    rw [sectionsFrom_cons, List.flatMap_cons, ← hrest]
    split
    case h_1 name rest h =>
      have htag := (startedTag?_eq_some_iff.mp h).2
      have hline : solid line = solid ('@' :: name) ++ solid rest := by
        rw [← solid_trimLeft, trimLeft_of_tagLine? htag, solid_append]
      rw [List.flatMap_nil, List.nil_append, List.flatMap_cons, Chunk.solid, List.flatMap_cons,
        hline]
      simp only [List.append_assoc]
    case h_2 => rw [List.flatMap_cons, List.append_assoc]

/-- The summary and the description hold all of the free text. -/
theorem solid_summary_description (text : List (List Char)) :
  solid (joinLines (summaryLines text)) ++ solid (description text) = text.flatMap solid
  := by
  rw [summaryLines, description, solid_trim, solid_joinLines, solid_joinLines, List.flatMap_map]
  simp only [solid_trim]
  rw [← List.flatMap_append, List.takeWhile_append_dropWhile]

end Comment

open Comment

/-! ### Comments -/

/-- The characters of a tag as it is shown. -/
def Tag.solid (tag : Tag) : List Char :=
  Text.solid ('@' :: tag.name.toList ++ tag.rendered.toList)

theorem solid_ofBody (chunk : Chunk) :
  (Tag.ofBody (String.ofList chunk.name) chunk.body).solid = chunk.solid
  := by
  rw [Tag.solid, Tag.name_ofBody, String.toList_ofList, solid_append, solid_rendered, Chunk.body,
    solid_trim, solid_joinLines, Chunk.solid]

theorem groups_tags_ofLines (lines : List (List Char)) :
  Groups (fun tag => lower tag.name) (Comment.tags lines) (DocBlock.ofLines lines).tags
  := by
  rw [DocBlock.ofLines]
  apply groups_groupBy

theorem solid_ofLines (lines : List (List Char)) :
  solid (DocBlock.ofLines lines).summary.toList ++ solid (DocBlock.ofLines lines).description.toList
      ++ (Comment.tags lines).flatMap Tag.solid
    = lines.flatMap solid
  := by
  rw [DocBlock.ofLines, String.toList_ofList, String.toList_ofList, solid_summary_description,
    Comment.tags, List.flatMap_map]
  simp only [solid_ofBody]
  apply solid_sectionsFrom

/-- The block of a comment has its text: the lines hold, blanks apart, the summary, then the
description, then the tags one after the other, of which the block has the groups by name.  Each tag
has the name that is written there and is shown with the words of its body. -/
theorem comment_text_conserved (raw : String) :
  ∃ tags, Groups (fun tag => lower tag.name) tags (DocBlock.ofComment raw).tags
    ∧ solid (contentLines raw.toList).flatten
      = solid (DocBlock.ofComment raw).summary.toList
        ++ solid (DocBlock.ofComment raw).description.toList ++ tags.flatMap Tag.solid
    ∧ List.Forall₂
      (fun chunk tag => tag.name.toList = chunk.name
        ∧ words tag.rendered.toList = words chunk.body)
      (sections (contentLines raw.toList)).2 tags
  := by
  rw [DocBlock.ofComment]
  use Comment.tags (contentLines raw.toList), groups_tags_ofLines _
  constructor
  · rw [solid_ofLines, solid_flatten]
  · rw [Comment.tags, List.forall₂_map_right_iff, List.forall₂_same]
    intro chunk _
    rw [Tag.name_ofBody, String.toList_ofList]
    exact ⟨rfl, words_rendered _ _⟩

end DocTable
