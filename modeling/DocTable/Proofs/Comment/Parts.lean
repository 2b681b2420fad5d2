import DocTable.Proofs.Comment.Layout
import DocTable.Proofs.Grouping

/-!
# Comments written from their parts

`Parts` are what a comment is written from: the lines of its summary, of its description and of its
tags.  In any layout a comment is read as it was written, if no line of the text looks like the
start of a tag or like a fence.

A fence counts as one after any blanks: an indented one in the description, too, makes code of what
follows, and hides the tags.
-/

namespace DocTable

open Text

namespace Comment

/-- A tag to be written: its name, the line of its body beside the name, and more lines. -/
structure TagPart where
  name : List Char
  first : List Char
  more : List (List Char)

/-- What a comment is written from. -/
structure Parts where
  summary : List (List Char)
  description : List (List Char)
  tags : List TagPart

/-- The line at which a tag starts. -/
def TagPart.head (part : TagPart) : List Char :=
  '@' :: part.name ++ ' ' :: part.first

/-- The lines of a tag. -/
def TagPart.lines (part : TagPart) : List (List Char) :=
  part.head :: part.more

/-- The lines of a comment: an empty line follows the summary, and another the description. -/
def Parts.lines (parts : Parts) : List (List Char) :=
  parts.summary ++ [[]] ++ parts.description ++ [[]] ++ parts.tags.flatMap TagPart.lines

/-- A tag as it is read: its body are its lines without the blanks around them. -/
def TagPart.tag (part : TagPart) : Tag :=
  Tag.ofBody (String.ofList part.name) (trim (joinLines (part.first :: part.more)))

/-- A line that starts with a fence after its blanks. -/
def IsFenceLine (line : List Char) : Prop :=
  StartsFence (trimLeft line)

/-- A line that can be written and read: there is no break in it, and no blank at its end. -/
structure IsLine (line : List Char) : Prop where
  unbroken : IsUnbroken line
  ending : trimRight line = line

/-- A line that is text: it is none of the fences, and no tag starts at it. -/
structure IsTextLine (fences : List Char → Prop) (line : List Char) : Prop extends IsLine line where
  fence : ¬ fences line
  tag : ¬ StartsTag line

/-- The name of a tag: a character that names start with, and characters that continue it. -/
def IsTagName : List Char → Prop
  | [] => False
  | c :: rest => isTagStart c = true ∧ ∀ d ∈ rest, isTagChar d = true

/-- A name, and lines of text after the one beside the name. -/
structure TagPart.WellFormed (fences : List Char → Prop) (part : TagPart) : Prop where
  name : IsTagName part.name
  first : IsLine part.first
  more : ∀ line ∈ part.more, IsTextLine fences line

/-- Lines of text, of which those of the summary have no blanks around them.  A description begins
and ends with a line that has text, and does not come without a summary. -/
structure Parts.WellFormed (fences : List Char → Prop) (parts : Parts) : Prop where
  summary : ∀ line ∈ parts.summary,
    IsTextLine fences line ∧ trim line = line ∧ allBlank line = false
  description : ∀ line ∈ parts.description, IsTextLine fences line
  begins : ∀ line ∈ parts.description.head?, allBlank line = false
  ends : ∀ line ∈ parts.description.getLast?, allBlank line = false
  summarized : parts.summary = [] → parts.description = []
  tags : ∀ part ∈ parts.tags, part.WellFormed fences

/-- A block says what parts say. -/
structure Parts.Conveys (parts : Parts) (block : DocBlock) : Prop where
  summary : block.summary = String.ofList (joinLines parts.summary)
  description : block.description = String.ofList (trim (joinLines parts.description))
  /-- The tags are grouped by their lower-cased names. -/
  tags : Groups (fun tag => lower tag.name) (parts.tags.map TagPart.tag) block.tags

section Decidable

variable {fences : List Char → Prop} [DecidablePred fences]

instance : DecidablePred IsFenceLine := fun _ => inferInstanceAs (Decidable (_ ∨ _))

instance : DecidablePred IsTagName
  | [] => inferInstanceAs (Decidable False)
  | c :: rest => @instDecidableAnd _ _ (instDecidableEqBool (isTagStart c) true)
      (List.decidableBAll (isTagChar · = true) rest)

instance : DecidablePred IsLine := fun line =>
  decidable_of_iff (IsUnbroken line ∧ trimRight line = line)
    ⟨fun h => ⟨h.1, h.2⟩, fun h => ⟨h.unbroken, h.ending⟩⟩

instance : DecidablePred (IsTextLine fences) := fun line =>
  decidable_of_iff (IsLine line ∧ ¬ fences line ∧ ¬ StartsTag line)
    ⟨fun h => ⟨h.1, h.2.1, h.2.2⟩, fun h => ⟨h.toIsLine, h.fence, h.tag⟩⟩

instance : DecidablePred (TagPart.WellFormed fences) := fun part =>
  decidable_of_iff (IsTagName part.name ∧ IsLine part.first
      ∧ ∀ line ∈ part.more, IsTextLine fences line)
    ⟨fun h => ⟨h.1, h.2.1, h.2.2⟩, fun h => ⟨h.name, h.first, h.more⟩⟩

instance : DecidablePred (Parts.WellFormed fences) := fun parts =>
  decidable_of_iff ((∀ line ∈ parts.summary,
        IsTextLine fences line ∧ trim line = line ∧ allBlank line = false)
      ∧ (∀ line ∈ parts.description, IsTextLine fences line)
      ∧ (∀ line ∈ parts.description.head?, allBlank line = false)
      ∧ (∀ line ∈ parts.description.getLast?, allBlank line = false)
      ∧ (parts.summary = [] → parts.description = [])
      ∧ ∀ part ∈ parts.tags, part.WellFormed fences)
    ⟨fun h => ⟨h.1, h.2.1, h.2.2.1, h.2.2.2.1, h.2.2.2.2.1, h.2.2.2.2.2⟩,
      fun h => ⟨h.summary, h.description, h.begins, h.ends, h.summarized, h.tags⟩⟩

end Decidable

/-! ### The lines of a tag -/

variable {fences : List Char → Prop}

theorem IsTagName.isTagChar_of_mem {name : List Char} (h : IsTagName name) {c : Char}
    (hc : c ∈ name) :
  isTagChar c = true
  := by
  cases name with
  | nil => contradiction
  | cons start rest =>
    obtain ⟨hstart, hrest⟩ := h
    obtain rfl | hc := List.mem_cons.mp hc
    · apply isTagChar_of_isTagStart hstart
    · apply hrest c hc

/-- What is left beside the name of a tag when the blanks at the end of the line are gone. -/
def TagPart.beside (part : TagPart) : List Char :=
  if part.first.isEmpty then [] else ' ' :: part.first

theorem trimRight_head {part : TagPart} (h : part.WellFormed fences) :
  trimRight part.head = '@' :: part.name ++ part.beside
  := by
  rw [TagPart.head, TagPart.beside]
  split
  case isTrue hfirst =>
    rw [List.isEmpty_iff.mp hfirst, trimRight_append_blank _ (by decide), List.append_nil,
      trimRight_of_no_blank]
    intro c hc
    obtain rfl | hc := List.mem_cons.mp hc
    · decide
    · apply isBlank_of_isTagChar (h.name.isTagChar_of_mem hc)
  case isFalse hfirst =>
    have hne : trimRight part.first ≠ [] := by
      rw [h.first.ending]
      simpa using hfirst
    rw [List.append_cons, trimRight_append _ hne, h.first.ending, ← List.append_cons]

theorem tagLine?_head {part : TagPart} (h : part.WellFormed fences) :
  tagLine? ('@' :: part.name ++ part.beside) = some (part.name, part.beside)
  := by
  have hbeside : part.beside.takeWhile isTagChar = [] := by
    rw [TagPart.beside]
    split
    · rfl
    · apply List.takeWhile_cons_of_neg (by decide)
  have hdrop : part.beside.dropWhile isTagChar = part.beside := by
    rw [TagPart.beside]
    split
    · rfl
    · apply List.dropWhile_cons_of_neg (by decide)
  have hname := h.name
  rw [tagLine?, List.cons_append, trimLeft_cons (by decide)]
  cases hpart : part.name with
  | nil => rw [hpart] at hname; contradiction
  | cons c rest =>
    rw [hpart] at hname
    obtain ⟨hc, hrest⟩ := hname
    rw [List.cons_append]
    change (if isTagStart c = true then _ else _) = _
    rw [if_pos hc, List.takeWhile_append_of_pos hrest, List.dropWhile_append_of_pos hrest, hbeside,
      hdrop, List.append_nil]

theorem body_beside (part : TagPart) :
  trim (joinLines (part.beside :: part.more)) = trim (joinLines (part.first :: part.more))
  := by
  rw [TagPart.beside]
  split
  case isTrue hfirst => rw [List.isEmpty_iff.mp hfirst]
  case isFalse =>
    have hspace : allBlank [' '] = true := by decide
    cases hmore : part.more with
    | nil =>
      rw [joinLines, joinLines, List.intercalate_singleton, List.intercalate_singleton,
        ← List.singleton_append, trim_blank_append hspace]
    | cons next more =>
      rw [joinLines_cons_cons, joinLines_cons_cons, List.cons_append, ← List.singleton_append,
        trim_blank_append hspace]

/-! ### The lines of a comment -/

theorem IsTextLine.isPlain {line : List Char} (h : IsTextLine IsFenceLine line) :
  IsPlain line
  where
  fence := isFence_eq_false_iff.mpr h.fence
  tag := tagLine?_eq_none_iff.mpr h.tag

/-- The lines of a tag as they are read. -/
def TagPart.readLines (part : TagPart) : List (List Char) :=
  ('@' :: part.name ++ part.beside) :: part.more

theorem map_trimRight_of_isLine {lines : List (List Char)} (h : ∀ line ∈ lines, IsLine line) :
  lines.map trimRight = lines
  := by
  rw [List.map_congr_left fun line hline => (h line hline).ending, List.map_id']

theorem map_trimRight_lines {parts : Parts} (h : parts.WellFormed fences) :
  parts.lines.map trimRight
    = (parts.summary ++ [[]] ++ parts.description ++ [[]])
      ++ parts.tags.flatMap TagPart.readLines
  := by
  have hsummary := map_trimRight_of_isLine fun line hline => (h.summary line hline).1.toIsLine
  have hdescription := map_trimRight_of_isLine fun line hline => (h.description line hline).toIsLine
  have htags : parts.tags.flatMap (fun part => part.lines.map trimRight)
      = parts.tags.flatMap TagPart.readLines := by
    apply List.flatMap_congr
    intro part hpart
    have hmore := map_trimRight_of_isLine fun line hline =>
      ((h.tags part hpart).more line hline).toIsLine
    rw [TagPart.lines, List.map_cons, trimRight_head (h.tags part hpart), hmore, TagPart.readLines]
  have hempty : [[]].map trimRight = [[]] := rfl
  rw [Parts.lines, List.map_append, List.map_append, List.map_append, List.map_append, hsummary,
    hdescription, hempty, List.map_flatMap, htags]

theorem isUnbroken_head {part : TagPart} (h : part.WellFormed fences) :
  IsUnbroken part.head
  := by
  intro c hc
  rw [TagPart.head, List.mem_append, List.mem_cons, List.mem_cons] at hc
  obtain (rfl | hc) | rfl | hc := hc
  · decide
  · apply isLineBreak_of_isTagChar (h.name.isTagChar_of_mem hc)
  · decide
  · apply h.first.unbroken c hc

theorem isUnbroken_of_mem_lines {parts : Parts} (h : parts.WellFormed fences) :
  ∀ line ∈ parts.lines, IsUnbroken line
  := by
  have hempty : IsUnbroken [] := fun c hc => by contradiction
  intro line hline
  simp only [Parts.lines, List.mem_append, List.mem_flatMap, TagPart.lines, List.mem_cons,
    List.not_mem_nil, or_false] at hline
  obtain (((hline | rfl) | hline) | rfl) | ⟨part, hpart, rfl | hline⟩ := hline
  · apply (h.summary line hline).1.unbroken
  · apply hempty
  · apply (h.description line hline).unbroken
  · apply hempty
  · apply isUnbroken_head (h.tags part hpart)
  · apply ((h.tags part hpart).more line hline).unbroken

/-! ### Sections -/

/-- The section of a tag. -/
def TagPart.chunk (part : TagPart) : Chunk :=
  ⟨part.name, part.beside :: part.more⟩

theorem ofBody_chunk (part : TagPart) :
  Tag.ofBody (String.ofList part.chunk.name) part.chunk.body = part.tag
  := by
  rw [Chunk.body, TagPart.chunk, body_beside, TagPart.tag]

theorem sectionsFrom_tags {tags : List TagPart} (h : ∀ part ∈ tags, part.WellFormed IsFenceLine) :
  sectionsFrom false (tags.flatMap TagPart.readLines) = ([], tags.map TagPart.chunk)
  := by
  induction tags with
  | nil => rfl
  | cons part tags ih =>
    have hpart := h part List.mem_cons_self
    have hmore : ∀ line ∈ part.more, IsPlain line :=
      fun line hline => (hpart.more line hline).isPlain
    have htags := ih fun next hnext => h next (List.mem_cons_of_mem part hnext)
    rw [List.flatMap_cons, TagPart.readLines, List.cons_append,
      sectionsFrom_cons_of_tagLine? (tagLine?_head hpart),
      sectionsFrom_append_of_isPlain false hmore, htags, List.append_nil, List.map_cons,
      TagPart.chunk]

theorem ofLines_append_tags {text : List (List Char)} {tags : List TagPart}
    (htext : ∀ line ∈ text, IsPlain line) (htags : ∀ part ∈ tags, part.WellFormed IsFenceLine) :
  DocBlock.ofLines (text ++ tags.flatMap TagPart.readLines)
    = { summary := String.ofList (joinLines (summaryLines text))
        description := String.ofList (description text)
        tags := groupBy (fun tag => lower tag.name) (tags.map TagPart.tag) }
  := by
  have hsections : sections (text ++ tags.flatMap TagPart.readLines)
      = (text, tags.map TagPart.chunk) := by
    rw [sections, sectionsFrom_append_of_isPlain false htext, sectionsFrom_tags htags,
      List.append_nil]
  rw [DocBlock.ofLines, Comment.tags, hsections, List.map_map]
  simp only [Function.comp_def, ofBody_chunk]

/-! ### Text -/

theorem summaryLines_text {parts : Parts} (h : parts.WellFormed fences) :
  summaryLines (parts.summary ++ [[]] ++ parts.description ++ [[]]) = parts.summary
  := by
  have hnonblank : ∀ line ∈ parts.summary, (!allBlank line) = true := by
    intro line hline
    rw [(h.summary line hline).2.2, Bool.not_false]
  rw [summaryLines, List.append_assoc, List.append_assoc, List.takeWhile_append_of_pos hnonblank,
    List.singleton_append, List.takeWhile_cons_of_neg (by decide), List.append_nil,
    List.map_congr_left fun line hline => (h.summary line hline).2.1, List.map_id']

theorem description_text {parts : Parts} (h : parts.WellFormed fences) :
  description (parts.summary ++ [[]] ++ parts.description ++ [[]])
    = trim (joinLines parts.description)
  := by
  have hnonblank : ∀ line ∈ parts.summary, (!allBlank line) = true := by
    intro line hline
    rw [(h.summary line hline).2.2, Bool.not_false]
  rw [description, List.append_assoc, List.append_assoc, List.dropWhile_append_of_pos hnonblank,
    List.singleton_append, List.dropWhile_cons_of_neg (by decide), trim_joinLines_nil_cons,
    trim_joinLines_concat_nil]

theorem ofLines_contentLines_write (layout : Layout) {parts : Parts}
    (h : parts.WellFormed IsFenceLine) :
  DocBlock.ofLines (contentLines (layout.write parts.lines))
    = { summary := String.ofList (joinLines parts.summary)
        description := String.ofList (trim (joinLines parts.description))
        tags := groupBy (fun tag => lower tag.name) (parts.tags.map TagPart.tag) }
  := by
  rw [contentLines_write layout (isUnbroken_of_mem_lines h), map_trimRight_lines h]
  cases hsummary : parts.summary with
  | nil =>
    -- nothing but the tags is left
    have htags : ∀ line ∈ (parts.tags.flatMap TagPart.readLines).head?, line ≠ [] := by
      cases parts.tags with
      | nil => simp
      | cons part tags => simp [TagPart.readLines]
    have hlines := @ofLines_append_tags [] _ (by simp) h.tags
    rw [h.summarized hsummary]
    exact (ofLines_trimLines htags).trans hlines
  | cons line lines =>
    have htext : ∀ line ∈ parts.summary ++ [[]] ++ parts.description ++ [[]], IsPlain line := by
      intro line hline
      simp only [List.mem_append, List.mem_singleton] at hline
      obtain ((hline | rfl) | hline) | rfl := hline
      · apply (h.summary line hline).1.isPlain
      · apply isPlain_nil
      · apply (h.description line hline).isPlain
      · apply isPlain_nil
    have hline : line ≠ [] := by
      rintro rfl
      have hnonblank := (h.summary [] (hsummary ▸ List.mem_cons_self)).2.2
      contradiction
    rw [← hsummary, ofLines_trimLines, ofLines_append_tags htext h.tags, summaryLines_text h,
      description_text h]
    rw [hsummary]
    simpa using hline

/-- A comment is read as it was written: whatever its layout is, the block has the summary, the
description and the tags that the comment was written from. -/
theorem ofComment_write (layout : Layout) (parts : Parts) (h : parts.WellFormed IsFenceLine) :
  parts.Conveys (DocBlock.ofComment (String.ofList (layout.write parts.lines)))
  := by
  rw [DocBlock.ofComment, String.toList_ofList, ofLines_contentLines_write layout h]
  exact ⟨rfl, rfl, groups_groupBy _ _⟩

/-- Every line stands after a space, a star and another space. -/
def usualLayout : Layout where
  before := []
  opening := .lineFeed
  line _ := ⟨[' '], ' ', .lineFeed, rfl, rfl⟩
  closing := [' ']
  after := []
  before_blank := rfl
  closing_blank := rfl
  after_blank := rfl

/-- Stars and indented lines in the text, and a tag with an empty line in its body. -/
def starredParts : Parts where
  summary := ["*Bold*".toList, "** start".toList]
  description := ["  * item".toList, [], "end".toList]
  tags := [⟨"param".toList, "int $a first".toList, [[], "  * more".toList]⟩,
    ⟨"Param".toList, [], []⟩]

theorem ofComment_write_starredParts :
  starredParts.WellFormed IsFenceLine
    ∧ starredParts.Conveys
      (DocBlock.ofComment (String.ofList (usualLayout.write starredParts.lines)))
  := by
  have h : starredParts.WellFormed IsFenceLine := by decide
  exact ⟨h, ofComment_write usualLayout starredParts h⟩

/-- An indented fence in the description. -/
def indentedFence : Parts where
  summary := ["Summary".toList]
  description := ["  \x60\x60\x60".toList]
  tags := [⟨"see".toList, "x".toList, []⟩]

/-- It does not do to have no line that starts with a fence: an indented one, too, makes code of the
lines after it, and a tag among them is not read. -/
theorem not_conveys_indentedFence :
  indentedFence.WellFormed StartsFence
    ∧ ¬ indentedFence.Conveys
      (DocBlock.ofComment (String.ofList (usualLayout.write indentedFence.lines)))
  := by
  constructor
  · decide
  · intro h
    have hnone : (DocBlock.ofLines (contentLines (usualLayout.write indentedFence.lines))).tags.keys
        = [] := by
      decide
    have hkeys := h.tags.keys
    rw [DocBlock.ofComment, String.toList_ofList, hnone, indentedFence, List.map_singleton,
      List.map_singleton] at hkeys
    contradiction

end Comment

end DocTable
