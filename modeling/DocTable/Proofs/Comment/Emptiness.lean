import DocTable.DocBlock.Markup
import DocTable.Proofs.Comment.Layout
import DocTable.Proofs.Grouping
import DocTable.Proofs.Table.Layout

/-!
# Comments without text

The block of a comment is empty only if the comment has no lines with text, since the first of these
goes to the summary or starts a tag (`isEmpty_ofComment_iff`).  So nothing that a comment says is
lost where an empty block is not shown (`ofComment_hidesNothing`).

A comment of blanks, with at most one star on each line, has no text (`ofComment_bare`).  The
shortest comment is an exception: its opening and its closing delimiter share a star, and a slash is
left.
-/

namespace DocTable

open Text

namespace Comment

/-! ### Lines without text -/

variable {line text raw : List Char} {lines : List (List Char)}

theorem trimLines_eq_nil_iff :
  trimLines lines = [] ↔ ∀ line ∈ lines, line = []
  := by
  rw [trimLines_eq, List.rdropWhile_eq_nil_iff]
  simp only [List.isEmpty_iff]
  constructor
  · intro h line hline
    rw [← List.takeWhile_append_dropWhile (p := List.isEmpty) (l := lines),
      List.mem_append] at hline
    obtain hline | hline := hline
    · simpa using List.mem_takeWhile_imp hline
    · apply h line hline
  · intro h line hline
    apply h line ((List.dropWhile_suffix _).subset hline)

theorem trimLines_subset (lines : List (List Char)) :
  trimLines lines ⊆ lines
  := fun _ hline =>
    (List.dropWhile_suffix _).subset ((List.rdropWhile_prefix List.isEmpty _).subset hline)

theorem ne_nil_of_mem_head?_trimLines (h : line ∈ (trimLines lines).head?) :
  line ≠ []
  := by
  obtain ⟨rest, hrest⟩ := List.rdropWhile_prefix List.isEmpty (lines.dropWhile List.isEmpty)
  have hnot := List.head?_dropWhile_not List.isEmpty lines
  rw [← hrest, ← trimLines_eq, List.head?_append, h, Option.some_or] at hnot
  simpa using hnot

/-- The first line of the content of a comment has text. -/
theorem allBlank_of_mem_head?_contentLines (h : line ∈ (contentLines raw).head?) :
  allBlank line = false
  := by
  obtain ⟨written, -, rfl⟩ := List.mem_map.mp (trimLines_subset _ (List.mem_of_mem_head? h))
  by_contra hblank
  apply ne_nil_of_mem_head?_trimLines h
  rw [← trimRight_trimRight, trimRight_eq_nil_iff]
  apply eq_true_of_ne_false hblank

end Comment

open Comment

/-! ### Empty blocks -/

variable {line : List Char} {lines : List (List Char)}

/-- Without kinds of tags no tag is read. -/
theorem chunks_eq_nil_of_isEmpty_tags (h : (DocBlock.ofLines lines).tags.isEmpty) :
  (sections lines).2 = []
  := by
  have htags := (groups_groupBy _ _).eq_nil_of_isEmpty h
  apply List.map_eq_nil_iff.mp htags

/-- A line with text at the start of the free text goes to the summary. -/
theorem summary_ofLines_ne_empty {text : List (List Char)} (h : (sections lines).1 = line :: text)
    (hline : allBlank line = false) :
  (DocBlock.ofLines lines).summary ≠ ""
  := by
  have hfirst : trim line ≠ [] := by
    rw [ne_eq, trim_eq_nil_iff, hline]
    apply Bool.false_ne_true
  rw [DocBlock.ofLines, h, summaryLines, List.takeWhile_cons_of_pos (by simp [hline]),
    List.map_cons, ne_eq, String.ofList_eq_empty_iff]
  apply joinLines_cons_ne_nil hfirst _

/-- A first line with text goes to the summary, or starts a tag. -/
theorem isEmpty_ofLines_cons (hline : allBlank line = false) (lines : List (List Char)) :
  (DocBlock.ofLines (line :: lines)).isEmpty = false
  := by
  rw [Bool.eq_false_iff, DocBlock.isEmpty, ne_eq, Bool.and_eq_true, decide_eq_true_iff]
  rintro ⟨hsummary, htags⟩
  have hchunks := chunks_eq_nil_of_isEmpty_tags htags
  have htext : ∃ text, (sections (line :: lines)).1 = line :: text := by
    rw [sections, sectionsFrom_cons] at hchunks ⊢
    split at hchunks
    case h_1 => contradiction
    case h_2 => exact ⟨_, rfl⟩
  obtain ⟨text, htext⟩ := htext
  apply summary_ofLines_ne_empty htext hline hsummary

/-- The block of a comment is empty exactly if the comment has no content. -/
theorem isEmpty_ofComment_iff (raw : String) :
  (DocBlock.ofComment raw).isEmpty ↔ contentLines raw.toList = []
  := by
  rw [DocBlock.ofComment]
  cases hlines : contentLines raw.toList with
  | nil => exact iff_of_true rfl rfl
  | cons line lines =>
    have hhead : line ∈ (contentLines raw.toList).head? := by
      rw [hlines]
      rfl
    have hline := allBlank_of_mem_head?_contentLines hhead
    simp [isEmpty_ofLines_cons hline]

theorem ofComment_eq_empty_iff (raw : String) :
  DocBlock.ofComment raw = .empty ↔ contentLines raw.toList = []
  := by
  constructor
  · intro h
    rw [← isEmpty_ofComment_iff, h]
    rfl
  · intro h
    rw [DocBlock.ofComment, h]
    rfl

/-- Nothing that a comment says is lost where its block is not shown for being empty. -/
structure HidesNothing [Escaping] (raw : String) : Prop where
  isEmpty_iff : (DocBlock.ofComment raw).isEmpty ↔ contentLines raw.toList = []
  /-- An empty block has no description and no tags. -/
  eq_empty : (DocBlock.ofComment raw).isEmpty → DocBlock.ofComment raw = .empty
  toMarkup_eq_nil_iff : ∀ textHtml,
    (DocBlock.ofComment raw).toMarkup textHtml = [] ↔ contentLines raw.toList = []
  /-- The cell beside a member shows its block, unless its comment has no content. -/
  docsCell : ∀ formatDoc s m, m.docBlock = .ofComment raw →
    (Table.memberRow formatDoc s m).cell? .docs = some {
      role := .docs
      content := if contentLines raw.toList = [] then "" else formatDoc m.docBlock
      subject := .member m
      isEmpty := (contentLines raw.toList).isEmpty }
  /-- A symbol has a row for its block, unless its comment has no content. -/
  summaryRow : ∀ formatDoc s, s.docBlock = .ofComment raw →
    (Table.summaryRow formatDoc s ∈ Table.ownRows formatDoc s ↔ contentLines raw.toList ≠ [])

theorem DocBlock.toMarkup_eq_nil_iff [Escaping] (textHtml : String → String) (block : DocBlock) :
  block.toMarkup textHtml = [] ↔ block.isEmpty
  := by
  rw [DocBlock.toMarkup]
  split
  case isTrue h => exact iff_of_true rfl h
  case isFalse h => exact iff_of_false (by simp [Markup.wrap]) h

theorem Table.cell?_docs_memberRow [Escaping] (formatDoc : DocBlock → String) (s : Symbol)
    (m : Member) :
  (Table.memberRow formatDoc s m).cell? .docs = some {
    role := .docs
    content := if m.docBlock.isEmpty then "" else formatDoc m.docBlock
    subject := .member m
    isEmpty := m.docBlock.isEmpty }
  := by
  have hrole : m.kind.role ≠ .docs := by cases m.kind <;> decide
  simp [Row.cell?, Table.memberRow, hrole]

theorem Table.summaryRow_mem_ownRows_iff [Escaping] (formatDoc : DocBlock → String) (s : Symbol) :
  Table.summaryRow formatDoc s ∈ Table.ownRows formatDoc s ↔ s.docBlock.isEmpty = false
  := by
  have hmembers :
      ¬∃ m ∈ s.members, Table.memberRow formatDoc s m = Table.summaryRow formatDoc s := by
    rintro ⟨m, -, hrow⟩
    have hkind : m.kind.rowKind = .classSummary := congrArg Row.kind hrow
    cases hm : m.kind <;> simp [hm, MemberKind.rowKind] at hkind
  rw [Table.mem_ownRows_iff, or_iff_left hmembers, and_iff_left rfl]

/-- The block of a comment that has content is never taken for an empty one. -/
theorem ofComment_hidesNothing [Escaping] (raw : String) :
  HidesNothing raw
  where
  isEmpty_iff := isEmpty_ofComment_iff raw
  eq_empty h := (ofComment_eq_empty_iff raw).mpr ((isEmpty_ofComment_iff raw).mp h)
  toMarkup_eq_nil_iff textHtml := by
    rw [DocBlock.toMarkup_eq_nil_iff, isEmpty_ofComment_iff]
  docsCell formatDoc s m h := by
    have hempty : m.docBlock.isEmpty = (contentLines raw.toList).isEmpty := by
      rw [Bool.eq_iff_iff, h, isEmpty_ofComment_iff, List.isEmpty_iff]
    rw [Table.cell?_docs_memberRow, hempty]
    simp only [List.isEmpty_iff]
  summaryRow formatDoc s h := by
    rw [Table.summaryRow_mem_ownRows_iff, h, ne_eq, ← isEmpty_ofComment_iff, Bool.not_eq_true]

/-! ### Bare comments -/

namespace Comment

/-- A line of spaces and tabs, and of one star at most. -/
inductive IsBare : List Char → Prop where
  | blank {line : List Char} (h : line.all isSpaceOrTab) : IsBare line
  | star {before after : List Char} (hbefore : before.all isSpaceOrTab)
      (hafter : after.all isSpaceOrTab) : IsBare (before ++ '*' :: after)

/-- A text of bare lines, the last of which is not ended. -/
inductive IsBareText : List Char → Prop where
  | last {line : List Char} (h : IsBare line) : IsBareText line
  | ended {line : List Char} (h : IsBare line) (ending : LineEnd) {rest : List Char}
      (hrest : IsBareText rest) : IsBareText (line ++ ending.chars ++ rest)

theorem isBlank_of_isSpaceOrTab {c : Char} (h : isSpaceOrTab c = true) :
  isBlank c = true
  := by
  rw [isSpaceOrTab, Bool.or_eq_true, beq_iff_eq, beq_iff_eq] at h
  obtain rfl | rfl := h
  · decide
  · decide

theorem allBlank_of_all_isSpaceOrTab {text : List Char} (h : text.all isSpaceOrTab) :
  allBlank text = true
  := by
  rw [allBlank, List.all_eq_true]
  intro c hc
  apply isBlank_of_isSpaceOrTab (List.all_eq_true.mp h c hc)

/-- Nothing but blanks is left of a bare line. -/
theorem IsBare.allBlank_undecorate (h : IsBare line) :
  allBlank (undecorate line) = true
  := by
  cases h with
  | blank h =>
    rw [undecorate_closing h]
    rfl
  | @star before after hbefore hafter =>
    rw [undecorate, dropWhile_indent hbefore]
    cases after with
    | nil => rfl
    | cons c after =>
      rw [List.all_cons, Bool.and_eq_true] at hafter
      simpa [hafter.1] using allBlank_of_all_isSpaceOrTab hafter.2

theorem IsBare.isUnbroken (h : IsBare line) :
  IsUnbroken line
  := by
  intro c hc
  cases h with
  | blank h => apply isLineBreak_of_isSpaceOrTab (List.all_eq_true.mp h c hc)
  | star hbefore hafter =>
    rw [List.mem_append, List.mem_cons] at hc
    obtain hc | rfl | hc := hc
    · apply isLineBreak_of_isSpaceOrTab (List.all_eq_true.mp hbefore c hc)
    · decide
    · apply isLineBreak_of_isSpaceOrTab (List.all_eq_true.mp hafter c hc)

/-- The rest of a bare line after a star is bare. -/
theorem IsBare.of_cons_star (h : IsBare ('*' :: line)) :
  IsBare line
  := by
  generalize hline : '*' :: line = written at h
  cases h with
  | blank h =>
    rw [← hline, List.all_cons] at h
    contradiction
  | @star before after hbefore hafter =>
    cases before with
    | nil =>
      obtain ⟨-, rfl⟩ := List.cons.inj hline
      exact .blank hafter
    | cons c before =>
      obtain ⟨rfl, -⟩ := List.cons.inj hline
      contradiction

theorem IsBareText.of_cons_star {text : List Char} (h : IsBareText ('*' :: text)) :
  IsBareText text
  := by
  generalize htext : '*' :: text = written at h
  cases h with
  | last h =>
    rw [← htext] at h
    exact .last h.of_cons_star
  | @ended line h ending rest hrest =>
    cases line with
    | nil => cases ending <;> simp [LineEnd.chars] at htext
    | cons c line =>
      obtain ⟨rfl, rfl⟩ := List.cons.inj htext
      exact .ended h.of_cons_star ending hrest

/-- Bare texts are cut into bare lines. -/
theorem IsBareText.isBare_of_mem_splitLines {text : List Char} (h : IsBareText text) :
  ∀ line ∈ splitLines text, IsBare line
  := by
  induction h with
  | @last line h =>
    rw [splitLines_unbroken h.isUnbroken]
    split
    case isTrue => exact List.forall_mem_nil _
    case isFalse => apply List.forall_mem_singleton.mpr h
  | @ended line h ending rest _ ih =>
    obtain ⟨more, hlines, hmore⟩ := exists_splitLines_ended h.isUnbroken ending rest
    rw [hlines]
    apply List.forall_mem_cons.mpr ⟨h, fun next hnext => ih next (hmore hnext)⟩

theorem contentLines_eq_nil_iff {raw : List Char} :
  contentLines raw = []
    ↔ ∀ line ∈ splitLines (inner raw), allBlank (undecorate line) = true
  := by
  rw [contentLines, trimLines_eq_nil_iff, List.forall_mem_map]
  simp only [trimRight_eq_nil_iff]

theorem IsBareText.contentLines_eq_nil {raw : List Char} (h : IsBareText (inner raw)) :
  contentLines raw = []
  := by
  rw [contentLines_eq_nil_iff]
  intro line hline
  apply (h.isBare_of_mem_splitLines line hline).allBlank_undecorate

variable {before after text : List Char}

theorem IsBareText.contentLines_documentation (h : IsBareText text)
    (hbefore : allBlank before = true) (hafter : allBlank after = true) :
  contentLines (before ++ ('/' :: '*' :: '*' :: text ++ ['*', '/']) ++ after) = []
  := by
  apply IsBareText.contentLines_eq_nil
  rwa [inner_documentation hbefore hafter]

theorem IsBareText.contentLines_plain_eq_nil_iff (h : IsBareText text)
    (hbefore : allBlank before = true) (hafter : allBlank after = true) :
  contentLines (before ++ ('/' :: '*' :: text ++ ['*', '/']) ++ after) = [] ↔ text ≠ []
  := by
  cases text with
  | nil =>
    refine iff_of_false ?_ (not_not.mpr rfl)
    rw [contentLines_eq_nil_iff, List.cons_append, List.cons_append, List.nil_append,
      inner_shortest hbefore hafter]
    decide
  | cons c text =>
    refine iff_of_true ?_ (List.cons_ne_nil _ _)
    by_cases hc : c = '*'
    · -- A star at the start of the text belongs to the opening delimiter.
      subst hc
      apply h.of_cons_star.contentLines_documentation hbefore hafter
    · apply IsBareText.contentLines_eq_nil
      rwa [inner_plain hbefore hafter hc]

/-- Between the delimiters of a comment, bare lines give the empty block.  With one star in the
opening delimiter there must be some text, at least one blank. -/
theorem ofComment_bare (before after text : List Char) (hbefore : allBlank before = true)
    (hafter : allBlank after = true) (h : IsBareText text) :
  DocBlock.ofComment
      (String.ofList (before ++ ('/' :: '*' :: '*' :: text ++ ['*', '/']) ++ after)) = .empty
    ∧ (DocBlock.ofComment
      (String.ofList (before ++ ('/' :: '*' :: text ++ ['*', '/']) ++ after)) = .empty ↔ text ≠ [])
  := by
  rw [ofComment_eq_empty_iff, ofComment_eq_empty_iff, String.toList_ofList, String.toList_ofList]
  exact ⟨h.contentLines_documentation hbefore hafter,
    h.contentLines_plain_eq_nil_iff hbefore hafter⟩

theorem ofComment_bare_stars :
  IsBareText " *\t\r\n\n*\r ".toList
    ∧ DocBlock.ofComment "\t/** *\t\r\n\n*\r */\n" = .empty
    ∧ DocBlock.ofComment "\t/* *\t\r\n\n*\r */\n" = .empty
  := by
  have h : IsBareText " *\t\r\n\n*\r ".toList := by
    have hlast : IsBareText [' '] := .last (.blank (by decide))
    have hthird : IsBareText (['*'] ++ LineEnd.carriageReturn.chars ++ [' ']) :=
      .ended (@IsBare.star [] [] (by decide) (by decide)) .carriageReturn hlast
    have hsecond : IsBareText ([] ++ LineEnd.lineFeed.chars ++ _) :=
      .ended (.blank (by decide)) .lineFeed hthird
    exact .ended (@IsBare.star [' '] ['\t'] (by decide) (by decide)) .carriageReturnLineFeed hsecond
  have hbare := ofComment_bare ['\t'] ['\n'] _ (by decide) (by decide) h
  exact ⟨h, hbare.1, hbare.2.mpr (by decide)⟩

/-- The shortest comment has no text between its delimiters, and yet a slash is read. -/
theorem ofComment_shortest :
  IsBareText [] ∧ (DocBlock.ofComment "/**/").summary = "/" ∧ DocBlock.ofComment "/**/" ≠ .empty
  := ⟨.last (.blank rfl), by decide, by decide⟩

end Comment

end DocTable
