import DocTable.Proofs.Comment.Sections

/-!
# The layout of comments

`Layout.write` writes lines as a comment: every line has some indentation, a star and a blank before
it, and any of the usual ends.  Whatever the layout is, what is read of the comment are the lines
(`contentLines_write`), less the blanks at their ends and the empty lines before the first and after
the last one that has text.
-/

namespace DocTable.Comment

open Text

/-- How a line of a comment is laid out: its indentation, the blank after its star and its end. -/
structure LineLayout where
  indent : List Char
  gap : Char
  ending : LineEnd
  indent_blank : indent.all isSpaceOrTab = true
  gap_blank : isSpaceOrTab gap = true

/-- A line as it is written; after the star of an empty line there is nothing. -/
def LineLayout.write (layout : LineLayout) (line : List Char) : List Char :=
  layout.indent ++ '*' :: (if line.isEmpty then [] else layout.gap :: line) ++ layout.ending.chars

/-- How a comment is laid out: the white space around it, the end of its first line, the layout of
each line, and the indentation of its last line. -/
structure Layout where
  before : List Char
  opening : LineEnd
  line : Nat → LineLayout
  closing : List Char
  after : List Char
  before_blank : allBlank before = true
  closing_blank : closing.all isSpaceOrTab = true
  after_blank : allBlank after = true

/-- Lines as they are written one after the other. -/
def writeLines (layout : Nat → LineLayout) : List (List Char) → List Char
  | [] => []
  | line :: lines => (layout 0).write line ++ writeLines (fun n => layout (n + 1)) lines

/-- Lines as they are written in a comment. -/
def Layout.write (layout : Layout) (lines : List (List Char)) : List Char :=
  layout.before
    ++ ('/' :: '*' :: '*'
      :: (layout.opening.chars ++ writeLines layout.line lines ++ layout.closing) ++ ['*', '/'])
    ++ layout.after

/-! ### One line -/

theorem dropWhile_indent {indent : List Char} (h : indent.all isSpaceOrTab = true)
    (rest : List Char) :
  (indent ++ '*' :: rest).dropWhile isSpaceOrTab = '*' :: rest
  := by
  rw [List.dropWhile_append_of_pos (List.all_eq_true.mp h), List.dropWhile_cons_of_neg (by decide)]

/-- A written line without its end. -/
def LineLayout.marked (layout : LineLayout) (line : List Char) : List Char :=
  layout.indent ++ '*' :: (if line.isEmpty then [] else layout.gap :: line)

theorem LineLayout.write_eq (layout : LineLayout) (line : List Char) :
  layout.write line = layout.marked line ++ layout.ending.chars
  := rfl

theorem undecorate_marked (layout : LineLayout) (line : List Char) :
  undecorate (layout.marked line) = line
  := by
  rw [undecorate, LineLayout.marked, dropWhile_indent layout.indent_blank]
  cases line with
  | nil => rfl
  | cons c line =>
    have hgap := layout.gap_blank
    simp [hgap]

theorem undecorate_closing {closing : List Char} (h : closing.all isSpaceOrTab = true) :
  undecorate closing = []
  := by
  rw [undecorate, List.dropWhile_eq_nil_iff.mpr (List.all_eq_true.mp h)]

theorem isLineBreak_of_isSpaceOrTab {c : Char} (h : isSpaceOrTab c = true) :
  isLineBreak c = false
  := by
  rw [isSpaceOrTab, Bool.or_eq_true, beq_iff_eq, beq_iff_eq] at h
  obtain rfl | rfl := h
  · decide
  · decide

theorem isUnbroken_marked (layout : LineLayout) {line : List Char} (h : IsUnbroken line) :
  IsUnbroken (layout.marked line)
  := by
  intro c hc
  rw [LineLayout.marked, List.mem_append, List.mem_cons] at hc
  obtain hc | rfl | hc := hc
  · apply isLineBreak_of_isSpaceOrTab (List.all_eq_true.mp layout.indent_blank c hc)
  · decide
  · split at hc
    case isTrue => contradiction
    case isFalse =>
      obtain rfl | hc := List.mem_cons.mp hc
      · apply isLineBreak_of_isSpaceOrTab layout.gap_blank
      · apply h c hc

/-! ### Many lines -/

/-- No written line begins with a line feed, so the end of the line before it is not extended. -/
theorem head?_writeLines_append (layout : Nat → LineLayout) (lines : List (List Char))
    {closing : List Char} (h : closing.all isSpaceOrTab = true) :
  (writeLines layout lines ++ closing).head? ≠ some '\n'
  := by
  have hindent : ∀ {indent : List Char}, indent.all isSpaceOrTab = true → '\n' ∉ indent := by
    intro indent hindent hmem
    have hbad := List.all_eq_true.mp hindent _ hmem
    contradiction
  intro hhead
  cases lines with
  | nil => apply hindent h (List.mem_of_head? hhead)
  | cons line lines =>
    rw [writeLines, LineLayout.write, List.append_assoc, List.append_assoc, List.append_assoc,
      List.head?_append] at hhead
    cases hfirst : (layout 0).indent.head? with
    | none => rw [hfirst] at hhead; simp at hhead
    | some c =>
      rw [hfirst, Option.some_or] at hhead
      rw [hhead] at hfirst
      apply hindent (layout 0).indent_blank (List.mem_of_head? hfirst)

/-- The written lines are cut apart again. -/
theorem splitLines_writeLines (layout : Nat → LineLayout) {lines : List (List Char)}
    (hlines : ∀ line ∈ lines, IsUnbroken line) {closing : List Char}
    (hclosing : closing.all isSpaceOrTab = true) :
  (splitLines (writeLines layout lines ++ closing)).map undecorate
    = lines ++ (if closing.isEmpty then [] else [[]])
  := by
  induction lines generalizing layout with
  | nil =>
    have hunbroken : IsUnbroken closing := fun c hc =>
      isLineBreak_of_isSpaceOrTab (List.all_eq_true.mp hclosing c hc)
    rw [writeLines, List.nil_append, splitLines_unbroken hunbroken]
    split
    case isTrue => rfl
    case isFalse => rw [List.map_singleton, undecorate_closing hclosing, List.nil_append]
  | cons line lines ih =>
    have hline := isUnbroken_marked (layout 0) (hlines line List.mem_cons_self)
    rw [writeLines, LineLayout.write_eq, List.append_assoc,
      splitLines_ended hline _ (head?_writeLines_append _ _ hclosing), List.map_cons,
      undecorate_marked, ih _ fun next hnext => hlines next (List.mem_cons_of_mem line hnext),
      List.cons_append]

/-! ### Comments -/

section Delimiters

variable {before after : List Char} (hbefore : allBlank before = true)
  (hafter : allBlank after = true)

include hbefore hafter

theorem trim_delimited (text : List Char) :
  trim (before ++ ('/' :: '*' :: text ++ ['*', '/']) ++ after) = '/' :: '*' :: text ++ ['*', '/']
  := by
  apply trim_between hbefore hafter
  · apply trimLeft_cons (by decide)
  · rw [trimRight_append _ (by decide)]
    rfl

/-- Two stars open a comment. -/
theorem inner_documentation (text : List Char) :
  inner (before ++ ('/' :: '*' :: '*' :: text ++ ['*', '/']) ++ after) = text
  := by
  have htrim := trim_delimited hbefore hafter ('*' :: text)
  rw [inner, htrim]
  simp only [List.cons_append, List.reverse_append, List.reverse_cons, List.reverse_nil,
    List.nil_append, List.reverse_reverse]

/-- One star opens a comment, too, if no other star follows. -/
theorem inner_plain {c : Char} (hc : c ≠ '*') (text : List Char) :
  inner (before ++ ('/' :: '*' :: c :: text ++ ['*', '/']) ++ after) = c :: text
  := by
  have htrim := trim_delimited hbefore hafter (c :: text)
  rw [inner, htrim]
  simp [hc]

/-- In the shortest comment both delimiters have the same star, which is taken for the opening. -/
theorem inner_shortest :
  inner (before ++ ['/', '*', '*', '/'] ++ after) = ['/']
  := by
  have htrim : trim (before ++ ['/', '*', '*', '/'] ++ after) = ['/', '*', '*', '/'] :=
    trim_delimited hbefore hafter []
  rw [inner, htrim]
  rfl

end Delimiters

theorem inner_write (layout : Layout) (lines : List (List Char)) :
  inner (layout.write lines)
    = layout.opening.chars ++ writeLines layout.line lines ++ layout.closing
  := inner_documentation layout.before_blank layout.after_blank _

theorem trimLines_eq (lines : List (List Char)) :
  trimLines lines = (lines.dropWhile List.isEmpty).rdropWhile List.isEmpty
  := rfl

theorem trimLines_nil_cons (lines : List (List Char)) :
  trimLines ([] :: lines) = trimLines lines
  := rfl

theorem trimLines_concat_nil (lines : List (List Char)) :
  trimLines (lines ++ [[]]) = trimLines lines
  := by
  rw [trimLines, trimLines, List.dropWhile_append]
  split
  case isTrue h => rw [List.isEmpty_iff.mp h]; rfl
  case isFalse => rw [List.reverse_append]; rfl

/-- Whatever the layout of a comment is, its content are the lines that are written. -/
theorem contentLines_write (layout : Layout) {lines : List (List Char)}
    (h : ∀ line ∈ lines, IsUnbroken line) :
  contentLines (layout.write lines) = trimLines (lines.map trimRight)
  := by
  have hlines := splitLines_writeLines layout.line h layout.closing_blank
  have hfirst := splitLines_end layout.opening
    (head?_writeLines_append layout.line lines layout.closing_blank)
  have hmap (written : List (List Char)) :
      written.map (fun line => trimRight (undecorate line))
        = (written.map undecorate).map trimRight := by
    rw [List.map_map]
    rfl
  rw [contentLines, inner_write, List.append_assoc, hfirst, hmap, List.map_cons, hlines,
    List.map_cons, List.map_append]
  -- the line of the opening delimiter is empty, and so is that of the closing one
  have hopening : trimRight (undecorate []) = [] := rfl
  rw [hopening, trimLines_nil_cons]
  split
  case isTrue => rw [List.map_nil, List.append_nil]
  case isFalse => apply trimLines_concat_nil

/-- Lines that begin with text have only empty lines after their content. -/
theorem isPadded_trimLines {lines : List (List Char)} (h : ∀ line ∈ lines.head?, line ≠ []) :
  IsPadded (trimLines lines) lines
  := by
  have hstart : lines.dropWhile List.isEmpty = lines := by
    cases lines with
    | nil => rfl
    | cons line lines =>
      apply List.dropWhile_cons_of_neg
      simpa using h line rfl
  have hend : trimLines lines = lines.rdropWhile List.isEmpty := by
    rw [trimLines_eq, hstart]
  use (lines.rtakeWhile List.isEmpty).length
  have hempty : lines.rtakeWhile List.isEmpty
      = List.replicate (lines.rtakeWhile List.isEmpty).length [] := by
    rw [List.eq_replicate_iff]
    refine ⟨rfl, ?_⟩
    intro line hline
    simpa using List.mem_rtakeWhile_imp hline
  rw [hend, ← hempty, List.rdropWhile_append_rtakeWhile]

/-- Of lines that begin with text only the content matters. -/
theorem ofLines_trimLines {lines : List (List Char)} (h : ∀ line ∈ lines.head?, line ≠ []) :
  DocBlock.ofLines (trimLines lines) = DocBlock.ofLines lines
  := by
  obtain ⟨n, hlines⟩ := isPadded_trimLines h
  conv_rhs => rw [hlines]
  rw [ofLines_append_replicate]

end DocTable.Comment
