import DocTable.Markup.Entities
import DocTable.Proofs.Report.Inline
import DocTable.Proofs.Report.Shape
import DocTable.Proofs.Table.Spans

/-!
# The table is read back from the page

Whoever cuts the body of the table in a page at the tags of rows and cells, and reads the attributes
of these tags, finds the rows and cells of the layout: their kinds, their spans, the starts of
groups, and the cells without documentation.

The formatter of documentation is arbitrary, except that what it writes has no tags.
-/

namespace DocTable

/-! ### Readings -/

/-- What is read of a cell. -/
structure CellReading where
  styles : List String
  rowSpan : Nat
  colSpan : Nat
  /-- The marker for absent documentation stands in the cell. -/
  isMarked : Bool
  deriving DecidableEq, Repr

/-- What is read of a row. -/
structure RowReading where
  styles : List String
  cells : List CellReading
  deriving DecidableEq, Repr

/-- A cell is read from its tag and the tags in it. -/
def readCell (cell : HtmlTag × List HtmlTag) : CellReading where
  styles := cell.1.styles
  rowSpan := cell.1.span "rowspan"
  colSpan := cell.1.span "colspan"
  isMarked := markerTag ∈ cell.2

/-- A row is read from its tag and the tags in it. -/
def readRow (row : HtmlTag × List HtmlTag) : RowReading where
  styles := row.1.styles
  cells := (elements "td" row.2).map readCell

/-- The rows in the body of the last table of a page. -/
def readPage (page : String) : List RowReading :=
  match (elements "tbody" (readTags page.toList)).getLast? with
  | some (_, inner) => (elements "tr" inner).map readRow
  | none => []

/-- The style classes of the cells of a role. -/
def CellRole.styles (role : CellRole) : List String :=
  role.styleClass :: if role = .namespaceName ∨ role = .className then [] else ["striped"]

/-- What a cell is to be read as. -/
def Cell.reading (cell : Cell) : CellReading where
  styles := cell.role.styles
  rowSpan := cell.rowSpan
  colSpan := cell.colSpan
  isMarked := cell.role = .docs ∧ cell.isEmpty

/-- The style classes of the rows of a kind. -/
def RowKind.styles (kind : RowKind) (startsGroup : Bool) : List String :=
  ("dt-row-" ++ kind.word) :: if startsGroup then ["dt-group-start"] else []

/-- What a row is to be read as. -/
def Row.reading (row : Row) : RowReading where
  styles := row.kind.styles row.startsGroup
  cells := row.cells.map Cell.reading

/-- What the row of a table without rows is to be read as. -/
def placeholderReading : RowReading where
  styles := []
  cells := [{ styles := ["dt-empty", "dt-gray"], rowSpan := 1, colSpan := 4, isMarked := false }]

/-- What a table is to be read as. -/
def Table.reading (table : Table) : List RowReading :=
  if table.isEmpty then [placeholderReading] else table.map Row.reading

namespace Report

open Markup

/-! ### Cells -/

/-- A cell as the layout makes it: its spans are positive, only documentation may be absent, and its
content has no tags. -/
structure IsLegible (cell : Cell) : Prop where
  rowSpan : 0 < cell.rowSpan
  colSpan : 0 < cell.colSpan
  isEmpty : cell.isEmpty → cell.role = .docs
  content : '<' ∉ cell.content.toList

/-- The tags in a cell are not of the table, and the marker is one of them if documentation is
absent. -/
theorem exists_hasTags_contentMarkup [Escaping] {cell : Cell} (h : IsLegible cell)
    (owner : String) :
  ∃ tags, HasTags (contentMarkup owner cell) tags ∧ (∀ tag ∈ tags, tag.name ∉ tableNames)
    ∧ (markerTag ∈ tags ↔ cell.role = .docs ∧ cell.isEmpty)
  := by
  cases hempty : cell.isEmpty with
  | true =>
    have hrole := h.isEmpty hempty
    have hcontent : contentMarkup owner cell = notAvailable := by
      simp [contentMarkup, hrole, hempty]
    rw [hcontent, hrole]
    use [markerTag, ⟨"/span", []⟩], hasTags_span (by decide) "n/a"
    decide
  | false =>
    obtain ⟨-, tags, htags, hall, -⟩ := exists_isInlineWith_contentMarkup hempty h.content owner
    simp only [HtmlTag.isInline, Bool.and_eq_true, Bool.not_eq_true', List.contains_eq_mem,
      decide_eq_false_iff_not, decide_eq_true_eq] at hall
    refine ⟨tags, htags, fun tag htag => (hall tag htag).1, ?_⟩
    have hmarker : markerTag ∉ tags := fun htag => (hall markerTag htag).2 rfl
    simp [hmarker]

/-- The attribute for a span of more than one row or column. -/
def spanAttributes (name : String) (n : Nat) : List (String × String) :=
  if 1 < n then [(name, toString n)] else []

/-- The value of the class attribute for the cells of a role. -/
def cellClass (role : CellRole) : String :=
  role.styleClass ++ if role = .namespaceName ∨ role = .className then "" else " striped"

/-- The tag of a cell. -/
def cellTag (cell : Cell) : HtmlTag where
  name := "td"
  attributes := ("class", cellClass cell.role)
    :: (spanAttributes "rowspan" cell.rowSpan ++ spanAttributes "colspan" cell.colSpan)

theorem spanAttribute_eq (name : String) (n : Nat) :
  spanAttribute name n = writeAttributes (spanAttributes name n)
  := by
  rw [spanAttribute, spanAttributes]
  split
  · simp [writeAttributes]
  · rfl

theorem marks_toString (n : Nat) :
  marks (toString n) = []
  := by
  rw [marks, List.filter_eq_nil_iff]
  intro c hc hmark
  have hdigit : c.isDigit := by
    apply Nat.isDigit_of_mem_toDigits (b := 10) (n := n) (by decide) (by decide)
    rw [← Nat.toList_repr]
    exact hc
  simp only [isMark, Bool.or_eq_true, decide_eq_true_eq] at hmark
  obtain ((rfl | rfl) | rfl) | rfl := hmark
  all_goals contradiction

theorem marks_spanAttributes {name : String} (h : name.toList.all Char.isAlpha) (n : Nat) :
  ∀ a ∈ spanAttributes name n, a.1.toList.all Char.isAlpha ∧ marks a.2 = []
  := by
  intro a ha
  rw [spanAttributes] at ha
  split at ha
  · rw [List.mem_singleton.mp ha]
    exact ⟨h, marks_toString n⟩
  · simp at ha

theorem cellTag_isWritable (cell : Cell) :
  (cellTag cell).IsWritable
  where
  noBlank := (by decide : ' ' ∉ "td".toList)
  name := (by decide : marks "td" = [])
  attributes := by
    have hclass : "class".toList.all Char.isAlpha ∧ marks (cellClass cell.role) = [] := by
      use by decide
      cases cell.role <;> decide
    rw [cellTag, List.forall_mem_cons, List.forall_mem_append]
    exact ⟨hclass, marks_spanAttributes (by decide) _, marks_spanAttributes (by decide) _⟩

theorem hasTags_cellMarkup [Escaping] {owner : String} {cell : Cell} {tags : List HtmlTag}
    (h : HasTags (contentMarkup owner cell) tags) :
  HasTags (cellMarkup owner cell) (cellTag cell :: tags ++ [⟨"/td", []⟩])
  := by
  apply HasTags.cons (cellTag_isWritable cell) (n := contentMarkup owner cell ++ [.fixed "</td>"])
  · apply h.append (hasTags_fixed rfl _)
    decide
  · simp [cellMarkup, Markup.wrap, cellTag, cellClass, HtmlTag.write, spanAttribute_eq, toHtml,
      writeAttributes_cons, writeAttributes_append, Piece.toHtml]

/-! ### Reading the tags of cells and rows -/

theorem words_cellClass (role : CellRole) :
  (Text.words (cellClass role).toList).map String.ofList = role.styles
  := by
  cases role <;> decide

theorem span_eq {tag : HtmlTag} {name : String} {n : Nat} (hn : 0 < n)
    (h : tag.attribute? name = (spanAttributes name n).lookup name) :
  tag.span name = n
  := by
  rw [HtmlTag.span, h, spanAttributes]
  split_ifs
  · simp [Nat.ofDigitChars_ten_toDigits]
  · simp
    omega

theorem lookup_cons_of_ne {key name : String} (h : key ≠ name) (value : String)
    (rest : List (String × String)) :
  ((name, value) :: rest).lookup key = rest.lookup key
  := by
  have hbeq : (key == name) = false := beq_false_of_ne h
  rw [List.lookup_cons, hbeq]

theorem lookup_spanAttributes_of_ne {key name : String} (h : key ≠ name) (n : Nat) :
  (spanAttributes name n).lookup key = none
  := by
  rw [spanAttributes]
  split
  · apply lookup_cons_of_ne h
  · rfl

/-- The cell is read from its tag and the tags in it. -/
theorem readCell_cellTag {cell : Cell} (h : IsLegible cell) {tags : List HtmlTag}
    (hmarker : markerTag ∈ tags ↔ cell.role = .docs ∧ cell.isEmpty) :
  readCell (cellTag cell, tags) = cell.reading
  := by
  have hstyles : (cellTag cell).styles = cell.role.styles := words_cellClass cell.role
  have hrowSpan : (cellTag cell).span "rowspan" = cell.rowSpan := by
    apply span_eq h.rowSpan
    rw [HtmlTag.attribute?, cellTag, lookup_cons_of_ne (by decide), List.lookup_append,
      lookup_spanAttributes_of_ne (by decide : "rowspan" ≠ "colspan"), Option.or_none]
  have hcolSpan : (cellTag cell).span "colspan" = cell.colSpan := by
    apply span_eq h.colSpan
    rw [HtmlTag.attribute?, cellTag, lookup_cons_of_ne (by decide), List.lookup_append,
      lookup_spanAttributes_of_ne (by decide : "colspan" ≠ "rowspan"), Option.none_or]
  rw [readCell, hstyles, hrowSpan, hcolSpan, Cell.reading, decide_eq_decide.mpr hmarker]

/-- The cell of a row is found in the row. -/
theorem exists_hasTags_cellMarkup [Escaping] {cell : Cell} (h : IsLegible cell) (owner : String) :
  ∃ tags, HasTags (cellMarkup owner cell) (cellTag cell :: tags ++ [⟨"/td", []⟩])
    ∧ (∀ tag ∈ tags, tag.name ∉ tableNames) ∧ readCell (cellTag cell, tags) = cell.reading
  := by
  obtain ⟨tags, htags, hnames, hmarker⟩ := exists_hasTags_contentMarkup h owner
  exact ⟨tags, hasTags_cellMarkup htags, hnames, readCell_cellTag h hmarker⟩

/-! ### Rows -/

/-- The value of the class attribute for the rows of a kind. -/
def rowClass (kind : RowKind) (startsGroup : Bool) : String :=
  "dt-row-" ++ kind.word ++ if startsGroup then " dt-group-start" else ""

/-- The tag of a row. -/
def rowTag (row : Row) : HtmlTag where
  name := "tr"
  attributes := [("class", rowClass row.kind row.startsGroup)]

theorem words_rowClass (kind : RowKind) (startsGroup : Bool) :
  (Text.words (rowClass kind startsGroup).toList).map String.ofList = kind.styles startsGroup
  := by
  cases kind <;> cases startsGroup <;> decide

theorem rowTag_isWritable (row : Row) :
  (rowTag row).IsWritable
  := by
  apply isWritable_styled
  · decide
  · cases row.kind <;> cases row.startsGroup <;> decide

section

variable [Escaping]

/-- The tags of the cells of a row, in which the cells are found. -/
theorem exists_hasTags_cells {cells : List Cell} (h : ∀ cell ∈ cells, IsLegible cell)
    (owner : String) :
  ∃ tags,
    HasTags (cells.flatMap fun cell => wrap "                " (cellMarkup owner cell) "\n") tags
      ∧ (∀ tag ∈ tags, tag.name ∉ ["tbody", "/tbody", "tr", "/tr"])
      ∧ (elements "td" tags).map readCell = cells.map Cell.reading
  := by
  induction cells with
  | nil => exact ⟨[], hasTags_nil, by simp, rfl⟩
  | cons cell cells ih =>
    rw [List.forall_mem_cons] at h
    obtain ⟨inner, hinner, hnames, hread⟩ := exists_hasTags_cellMarkup h.1 owner
    obtain ⟨rest, hrest, hrestNames, hrestRead⟩ := ih h.2
    simp only [tableNames, List.mem_cons, not_or] at hnames
    have hblanks : HasTags [.fixed "                "] [] := hasTags_fixed rfl (by decide)
    have hbreak : HasTags [.fixed "\n"] [] := hasTags_fixed rfl (by decide)
    use cellTag cell :: inner ++ ⟨"/td", []⟩ :: rest
    and_intros
    · simpa using (hblanks.wrap hinner hbreak).append hrest
    · rw [List.forall_mem_append, List.forall_mem_cons, List.forall_mem_cons]
      refine ⟨⟨by simp [cellTag], ?_⟩, by decide, hrestNames⟩
      intro tag htag
      obtain ⟨hbody, hbodyEnd, hrow, hrowEnd, -⟩ := hnames tag htag
      simp [hbody, hbodyEnd, hrow, hrowEnd]
    · rw [elements_element "td" rfl (by decide), List.map_cons, List.map_cons, hread, hrestRead]
      intro tag htag
      obtain ⟨-, -, -, -, hcell, hcellEnd, -⟩ := hnames tag htag
      exact ⟨hcell, hcellEnd⟩

theorem hasTags_rowOpening (row : Row) :
  HasTags
    [.fixed ("            <tr class=\"dt-row-" ++ row.kind.word
      ++ (if row.startsGroup then " dt-group-start" else "") ++ "\">\n")] [rowTag row]
  := by
  have hblanks : HasTags [.fixed "            "] [] := hasTags_fixed rfl (by decide)
  have hbreak : HasTags [.fixed "\n"] [] := hasTags_fixed rfl (by decide)
  have htag : HasTags [.fixed (rowTag row).write, .fixed "\n"] [rowTag row] := by
    apply HasTags.cons (rowTag_isWritable row) hbreak
    simp [toHtml, Piece.toHtml]
  apply (hblanks.append htag).congr
  simp [toHtml, Piece.toHtml, HtmlTag.write, rowTag, rowClass, writeAttributes]

theorem exists_hasTags_rowMarkup {row : Row} (h : ∀ cell ∈ row.cells, IsLegible cell) :
  ∃ tags, HasTags (rowMarkup row) (rowTag row :: tags ++ [⟨"/tr", []⟩])
    ∧ (∀ tag ∈ tags, tag.name ∉ ["tbody", "/tbody", "tr", "/tr"])
    ∧ readRow (rowTag row, tags) = row.reading
  := by
  obtain ⟨tags, htags, hnames, hread⟩ :=
    exists_hasTags_cells h (qualifiedName row.namespaceName row.className)
  have hstyles : (rowTag row).styles = row.kind.styles row.startsGroup := words_rowClass _ _
  have hclosing : HasTags [.fixed "            </tr>\n"] [⟨"/tr", []⟩] :=
    hasTags_fixed rfl (by decide)
  use tags, (hasTags_rowOpening row).wrap htags hclosing, hnames
  rw [readRow, hstyles, hread, Row.reading]

/-- The tags of the rows of a table, in which the rows are found. -/
theorem exists_hasTags_rows {table : Table}
    (h : ∀ row ∈ table, ∀ cell ∈ row.cells, IsLegible cell) :
  ∃ tags, HasTags (table.flatMap rowMarkup) tags
    ∧ (∀ tag ∈ tags, tag.name ∉ ["tbody", "/tbody"])
    ∧ (elements "tr" tags).map readRow = table.map Row.reading
  := by
  induction table with
  | nil => exact ⟨[], hasTags_nil, by simp, rfl⟩
  | cons row table ih =>
    rw [List.forall_mem_cons] at h
    obtain ⟨inner, hinner, hnames, hread⟩ := exists_hasTags_rowMarkup h.1
    obtain ⟨rest, hrest, hrestNames, hrestRead⟩ := ih h.2
    simp only [List.mem_cons, not_or] at hnames
    use rowTag row :: inner ++ ⟨"/tr", []⟩ :: rest
    and_intros
    · simpa using hinner.append hrest
    · rw [List.forall_mem_append, List.forall_mem_cons, List.forall_mem_cons]
      refine ⟨⟨by simp [rowTag], ?_⟩, by decide, hrestNames⟩
      intro tag htag
      obtain ⟨hbody, hbodyEnd, -⟩ := hnames tag htag
      simp [hbody, hbodyEnd]
    · rw [elements_element "tr" rfl (by decide), List.map_cons, List.map_cons, hread, hrestRead]
      intro tag htag
      obtain ⟨-, -, hrow, hrowEnd, -⟩ := hnames tag htag
      exact ⟨hrow, hrowEnd⟩

/-! ### The page -/

theorem hasTags_placeholderRow :
  HasTags placeholderRow
    ([⟨"tr", []⟩, ⟨"td", [("colspan", "4"), ("class", "dt-empty dt-gray")]⟩]
      ++ [⟨"/td", []⟩, ⟨"/tr", []⟩])
  := by
  apply HasTags.fixed_append
  · exact hasTags_fixed rfl (by decide)
  · exact hasTags_fixed rfl (by decide)

/-- The tags of the body of a table, in which the table is found. -/
theorem exists_hasTags_bodyMarkup {table : Table}
    (h : ∀ row ∈ table, ∀ cell ∈ row.cells, IsLegible cell) :
  ∃ tags, HasTags (bodyMarkup table) (⟨"tbody", []⟩ :: tags ++ [⟨"/tbody", []⟩])
    ∧ (∀ tag ∈ tags, tag.name ∉ ["tbody", "/tbody"])
    ∧ (elements "tr" tags).map readRow = table.reading
  := by
  have hopening : HasTags [.fixed "<tbody>\n"] [⟨"tbody", []⟩] :=
    hasTags_fixed rfl (by decide)
  have hclosing : HasTags [.fixed "        </tbody>"] [⟨"/tbody", []⟩] :=
    hasTags_fixed rfl (by decide)
  rw [bodyMarkup, Table.reading]
  split
  · refine ⟨_, hopening.wrap hasTags_placeholderRow hclosing, ?_, ?_⟩
    · decide
    · decide
  · obtain ⟨tags, htags, hnames, hread⟩ := exists_hasTags_rows h
    exact ⟨tags, hopening.wrap htags hclosing, hnames, hread⟩

/-- Whatever stands in the head of a page, the table is read back. -/
theorem readPage_html {table : Table} (h : ∀ row ∈ table, ∀ cell ∈ row.cells, IsLegible cell)
    (style : String) (settings : Settings) (making : Making) :
  readPage (html style settings making table) = table.reading
  := by
  obtain ⟨inner, hbody, hnames, hread⟩ := exists_hasTags_bodyMarkup h
  obtain ⟨tail, htail, hinline, -⟩ := isInline_tailMarkup settings making
  obtain ⟨before, hbefore⟩ := exists_readTags_append (headMarkup style settings).toHtml.toList
    (bodyMarkup table ++ tailMarkup settings making).toHtml.toList
  have htags : readTags (html style settings making table).toList
      = before ++ (⟨"tbody", []⟩ :: inner ++ ⟨"/tbody", []⟩ :: tail) := by
    rw [html, page, List.append_assoc, toHtml_append, String.toList_append, hbefore,
      (hbody.append htail).read]
    simp
  have htailNames : ∀ tag ∈ tail, tag.name ≠ "tbody" := by
    intro tag htag hname
    have htable := hinline tag htag
    simp [HtmlTag.isInline, hname, tableNames] at htable
  have helements : elements "tbody" (⟨"tbody", []⟩ :: inner ++ ⟨"/tbody", []⟩ :: tail)
      = [(⟨"tbody", []⟩, inner)] := by
    have hnone := elements_append_of_forall htailNames []
    rw [List.append_nil] at hnone
    rw [elements_element "tbody" rfl (by decide) (by simpa using hnames), hnone, elements]
  obtain ⟨others, hothers⟩ := elements_suffix "tbody" before
    (⟨"tbody", []⟩ :: inner ++ ⟨"/tbody", []⟩ :: tail)
  rw [readPage, htags, ← hothers, helements, List.getLast?_concat]
  exact hread

/-! ### The layout -/

theorem not_mem_escapeText (s : String) :
  '<' ∉ (escapeText s).toList
  := not_mem_of_marks_eq_nil (marks_escapeText s) rfl

variable {formatDoc : DocBlock → String} (hformat : ∀ block, '<' ∉ (formatDoc block).toList)

include hformat

theorem isLegible_of_mem_ownRows {s : Symbol} {row : Row} (h : row ∈ Table.ownRows formatDoc s) :
  ∀ cell ∈ row.cells, IsLegible cell
  := by
  obtain ⟨-, rfl⟩ | ⟨m, -, rfl⟩ := (Table.mem_ownRows_iff formatDoc).mp h
  · rw [Table.summaryRow, List.forall_mem_singleton]
    exact {
      rowSpan := Nat.one_pos
      colSpan := Nat.two_pos
      isEmpty := by simp
      content := hformat s.docBlock }
  · rw [Table.memberRow, List.forall_mem_cons, List.forall_mem_singleton]
    constructor
    · exact {
        rowSpan := Nat.one_pos
        colSpan := Nat.one_pos
        isEmpty := by simp
        content := not_mem_escapeText m.name }
    · exact {
        rowSpan := Nat.one_pos
        colSpan := Nat.one_pos
        isEmpty := fun _ => rfl
        content := by
          split
          · exact List.not_mem_nil
          · exact hformat m.docBlock }

theorem isLegible_of_mem_namespaceRows {name : String} {symbols : OrderedMap String Symbol}
    {row : Row} (h : row ∈ Table.namespaceRows formatDoc name symbols) :
  ∀ cell ∈ row.cells, IsLegible cell
  := by
  refine Table.forall_cells_namespaceRows ?_ ?_ ?_ row h
  · intro hcount
    exact {
      rowSpan := Nat.pos_of_ne_zero hcount
      colSpan := Nat.one_pos
      isEmpty := by simp [Table.namespaceCell]
      content := not_mem_escapeText name }
  · intro s hcount
    exact {
      rowSpan := Nat.pos_of_ne_zero hcount
      colSpan := Nat.one_pos
      isEmpty := by simp [Table.classCell]
      content := not_mem_escapeText s.shortName }
  · intro s row hrow
    exact isLegible_of_mem_ownRows hformat hrow

/-- What a table is read as from its page is the table of the layout: its rows with their kinds and
the starts of groups, their cells with their roles and spans, and the cells without documentation.
A table without rows is read as one row that holds its place. -/
theorem readPage_build (snapshot : Snapshot) (style : String) (settings : Settings)
    (making : Making) :
  readPage (html style settings making (Table.build snapshot formatDoc))
    = (Table.build snapshot formatDoc).reading
  := by
  apply readPage_html
  intro row hrow
  obtain ⟨e, -, hmem⟩ := List.mem_flatMap.mp hrow
  apply isLegible_of_mem_namespaceRows hformat hmem

end

/-- A snapshot of one class with documentation and a method without. -/
def halfDocumented : Snapshot :=
  OrderedMap.empty.put "N" (OrderedMap.empty.put "N\\C" {
    shortName := "C"
    fullName := "N\\C"
    namespaceName := "N"
    sourceFile := "<tr>"
    docBlock := { DocBlock.empty with summary := "<td>" }
    methods := OrderedMap.empty.put "run" { name := "run", kind := .method } })

/-- The class is read as two rows, the second of which has a marker. -/
theorem readPage_halfDocumented :
  (∀ block : DocBlock, '<' ∉ (escapeText block.summary).toList)
    ∧ readPage (html "" {} ⟨"", ⟨⟨1, 1, 1⟩, 0, 0, 0, 0, none⟩⟩
        (Table.build halfDocumented fun block => escapeText block.summary))
      = [{ styles := ["dt-row-class-summary", "dt-group-start"]
           cells := [⟨["dt-namespace"], 2, 1, false⟩, ⟨["dt-class"], 2, 1, false⟩,
             ⟨["dt-class-docs", "striped"], 1, 2, false⟩] },
         { styles := ["dt-row-method"]
           cells := [⟨["dt-method", "striped"], 1, 1, false⟩,
             ⟨["dt-docblock", "striped"], 1, 1, true⟩] }]
  := by
  have hformat (block : DocBlock) := not_mem_escapeText block.summary
  use hformat
  rw [readPage_build hformat]
  decide +kernel

end Report

end DocTable
