import DocTable.DocBlock.Markup
import DocTable.Markup.Entities
import DocTable.Markup.Plain
import DocTable.Proofs.Markup.Items

/-!
# Reading documentation

What is written for a documentation block is read as its parts: the summary, the description if
there is one, and one table for each kind of tags with one row for each tag (`readParts?`).  A row
is cut at its cells, and their style classes tell the classes of tags apart.  The texts are read
with their character references undone, so a row tells what is shown of its tag (`Tag.shown`).
-/

namespace DocTable

open Markup

/-! ### Parts of a block -/

/-- What is shown of a tag.  The label is its name with the at sign. -/
inductive ShownTag where
  | param (label : String) (types : List String) (signature description : String)
  | typed (label : String) (types : List String) (description : String)
  | generic (label rendered : String)
  deriving DecidableEq

/-- What is shown of a tag. -/
def Tag.shown : Tag → ShownTag
  | .param tag => .param ("@" ++ tag.name) tag.types tag.signature tag.description
  | .typed tag => .typed ("@" ++ tag.name) tag.types tag.description
  | .generic tag => .generic ("@" ++ tag.name) tag.rendered

/-- A part of what is shown of a block. -/
inductive BlockPart where
  /-- A free text, with its style class. -/
  | text (style : String) (content : List HtmlItem)
  /-- The tags of one kind. -/
  | table (kind : String) (tags : List ShownTag)
  deriving DecidableEq

/-- What is shown of a block. -/
def DocBlock.parts [Escaping] (block : DocBlock) : List BlockPart :=
  .text "dt-doc-summary" (htmlItems (plainHtml block.summary))
    :: (if block.description = "" then []
        else [.text "dt-doc-description" (htmlItems (plainHtml block.description))])
    ++ block.tags.entries.map fun (kind, tags) => .table kind (tags.map Tag.shown)

/-! ### Reading -/

/-- The style class of an element. -/
def HtmlElement.style (e : HtmlElement) : String :=
  (e.tag.attribute? "class").getD ""

/-- Every second text, from the first one on, if those between them are bars. -/
def betweenBars? : List String → Option (List String)
  | [] => some []
  | [s] => some [s]
  | s :: bar :: ss => if bar = "|" then (betweenBars? ss).map (s :: ·) else none

/-- The members of a union type, which stand in spans with a bar in the span between neighbours. -/
def readTypes? (items : List HtmlItem) : Option (List String) := do
  let spans ← elements? "span" items
  betweenBars? (← spans.mapM fun span => readText? span.inner)

/-- What the cells of a row show, given with their style classes. -/
def readCells? : List (String × List HtmlItem) → Option ShownTag
  | [("dt-doc-tag-name", label), ("dt-doc-tag-type", types), ("dt-doc-tag-variable", signature),
      ("dt-doc-tag-description", description)] => do
    pure (.param (← readText? label) (← readTypes? types) (← readText? signature)
      (← readText? description))
  | [("dt-doc-tag-name", label), ("dt-doc-tag-type", types),
      ("dt-doc-tag-description", description)] => do
    pure (.typed (← readText? label) (← readTypes? types) (← readText? description))
  | [("dt-doc-tag-name", label), ("dt-doc-tag-render", rendered)] => do
    pure (.generic (← readText? label) (← readText? rendered))
  | _ => none

/-- What a row shows. -/
def readRow? (row : HtmlElement) : Option ShownTag := do
  let cells ← elements? "td" row.inner
  readCells? (cells.map fun cell => (cell.style, cell.inner))

/-- The style class of a table of tags, up to the kind of the tags. -/
def tableStyle : String :=
  "dt-doc-tags-table dt-tags-table-"

/-- The kind of the tags of a table. -/
def HtmlElement.kind (e : HtmlElement) : String :=
  String.ofList (unescapeChars (e.style.toList.drop tableStyle.length))

/-- The part of a block that an element shows. -/
def readPart? (e : HtmlElement) : Option BlockPart :=
  if e.tag.name = "div" then some (.text e.style e.inner)
  else if e.tag.name = "table" then do
    let rows ← elements? "tr" e.inner
    pure (.table e.kind (← rows.mapM readRow?))
  else none

/-- The parts of a block that a text shows. -/
def readParts? (html : String) : Option (List BlockPart) := do
  (← elementsFrom? none (htmlItems html)).mapM readPart?

/-! ### Types -/

theorem betweenBars?_intersperse (ss : List String) :
  betweenBars? (ss.intersperse "|") = some ss
  := by
  induction ss with
  | nil => rfl
  | cons s ss ih =>
    cases ss with
    | nil => rfl
    | cons t ss => rw [List.intersperse_cons_cons, betweenBars?, if_pos rfl, ih, Option.map_some]

theorem intercalate_map_eq_flatMap {α β : Type} (f : α → List β) (sep : α) (as : List α) :
  (f sep).intercalate (as.map f) = (as.intersperse sep).flatMap f
  := by
  induction as with
  | nil => rfl
  | cons a as ih =>
    cases as with
    | nil => simp
    | cons b as =>
      rw [List.map_cons] at ih
      rw [List.map_cons, List.map_cons, List.intercalate_cons_cons, ih,
        List.intersperse_cons_cons, List.flatMap_cons, List.flatMap_cons, List.append_assoc]

/-! ### Cells -/

/-- A cell of the row of a tag. -/
def cellElement (role : String) (inner : List HtmlItem) : HtmlElement where
  tag := ⟨"td", [("class", "dt-doc-tag-" ++ role)]⟩
  inner := inner

theorem style_cellElement (role : String) (inner : List HtmlItem) :
  (cellElement role inner).style = "dt-doc-tag-" ++ role
  := rfl

theorem inner_cellElement (role : String) (inner : List HtmlItem) :
  (cellElement role inner).inner = inner
  := rfl

/-! ### Spans -/

section

variable [Escaping]

/-- The span of a member of a union type. -/
def spanElement (s : String) : HtmlElement where
  tag := ⟨"span", []⟩
  inner := textItems s

/-- The spans of the members of a union type, with bars between them. -/
def typeItems (types : List String) : List HtmlItem :=
  ((types.intersperse "|").map spanElement).flatMap HtmlElement.items

theorem usesTags_span (names : List String) (s : String) :
  UsesTags names (spanElement s).inner
  := usesTags_textItems names s

theorem hasItems_span (s : String) :
  HasItems (wrap "<span>" [.text s] "</span>") (spanElement s).items
  := by
  have hwritable : (spanElement s).tag.IsWritable := isWritable_name (by decide)
  apply (hasItems_text s).wrap hwritable
  · simp [spanElement, HtmlTag.write, writeAttributes]
  · simp [spanElement, HtmlElement.endTag, HtmlTag.write, writeAttributes]

theorem hasItems_typesMarkup (types : List String) :
  HasItems (typesMarkup types) (typeItems types)
  := by
  have hbar : HasItems [.fixed "<span>|</span>"] (spanElement "|").items := by
    have htext : textItems "|" = [.char '|'] := by
      rw [textItems, escapeText_eq_self (by decide)]
      rfl
    rw [HtmlElement.items, spanElement, htext]
    exact hasItems_fixed rfl fun _ => rfl
  have hjoin := hbar.join fun type (_ : type ∈ types) => hasItems_span type
  rw [intercalate_map_eq_flatMap fun type => (spanElement type).items] at hjoin
  rw [typeItems, List.flatMap_map]
  exact hjoin

theorem usesTags_typeItems (types : List String) :
  UsesTags ["span", "/span"] (typeItems types)
  := by
  apply UsesTags.flatMap
  intro e he
  obtain ⟨s, -, rfl⟩ := List.mem_map.mp he
  refine UsesTags.items ?_ ?_ (usesTags_span _ s)
  · simp [spanElement]
  · simp [spanElement]

theorem readTypes?_typeItems (types : List String) :
  readTypes? (typeItems types) = some types
  := by
  have hspans : elements? "span" (typeItems types)
      = some ((types.intersperse "|").map spanElement) := by
    apply elements?_flatMap
    · intro e he
      obtain ⟨s, -, rfl⟩ := List.mem_map.mp he
      exact (usesTags_span [] s).isClosed List.not_mem_nil
    · intro e he
      obtain ⟨s, -, rfl⟩ := List.mem_map.mp he
      rfl
  have htexts : ((types.intersperse "|").map spanElement).mapM (fun span => readText? span.inner)
      = some ((types.intersperse "|").map id) :=
    mapM_map_eq_some fun s _ => readText?_textItems s
  rw [readTypes?, hspans, Option.bind_eq_bind, Option.bind_some, htexts, List.map_id]
  exact betweenBars?_intersperse types

/-! ### Rows -/

/-- The cells of the row of a tag. -/
def Tag.cells (tag : Tag) : List HtmlElement :=
  cellElement "name" (textItems ("@" ++ tag.name)) :: match tag with
    | .param tag =>
      [cellElement "type" (typeItems tag.types), cellElement "variable" (textItems tag.signature),
        cellElement "description" (textItems tag.description)]
    | .typed tag =>
      [cellElement "type" (typeItems tag.types),
        cellElement "description" (textItems tag.description)]
    | .generic tag => [cellElement "render" (textItems tag.rendered)]

/-- The row of a tag. -/
def Tag.rowElement (tag : Tag) : HtmlElement where
  tag := ⟨"tr", []⟩
  inner := tag.cells.flatMap HtmlElement.items

theorem hasItems_tagCell (role : String) (hrole : marks role = []) {content : Markup}
    {items : List HtmlItem} (h : HasItems content items) :
  HasItems (tagCell role content) (cellElement role items).items
  := by
  have hfixed : marks "dt-doc-tag-" = [] := by
    decide
  have hwritable : (cellElement role items).tag.IsWritable :=
    isWritable_styled (by decide) (by rw [DocTable.marks_append, hfixed, hrole, List.append_nil])
  apply HasItems.wrap hwritable h
  · simp [cellElement, HtmlTag.write, writeAttributes]
  · simp [cellElement, HtmlElement.endTag, HtmlTag.write, writeAttributes]

theorem hasItems_row (tag : Tag) :
  HasItems tag.row tag.rowElement.items
  := by
  have hwritable : tag.rowElement.tag.IsWritable := isWritable_name (by decide)
  refine HasItems.wrap hwritable ?_ (by simp [Tag.rowElement, HtmlTag.write, writeAttributes])
    (by simp [Tag.rowElement, HtmlElement.endTag, HtmlTag.write, writeAttributes])
  have hlabel : HasItems [.fixed "@", .text tag.name] (textItems ("@" ++ tag.name)) := by
    have hat : escapeText "@" = "@" := escapeText_eq_self (by decide)
    have htext : toHtml [.fixed "@", .text tag.name] = toHtml [.text ("@" ++ tag.name)] := by
      simp [toHtml, Piece.toHtml, escapeText_append, hat]
    rw [HasItems, htext]
    apply hasItems_text
  have hname := hasItems_tagCell "name" (by decide) hlabel
  rw [Tag.rowElement, Tag.cells.eq_def, List.flatMap_cons]
  apply hname.append
  cases tag with
  | param tag =>
    have htype := hasItems_tagCell "type" (by decide) (hasItems_typesMarkup tag.types)
    have hvariable := hasItems_tagCell "variable" (by decide) (hasItems_text tag.signature)
    have hdescription := hasItems_tagCell "description" (by decide)
      (hasItems_text tag.description)
    simpa using htype.append (hvariable.append hdescription)
  | typed tag =>
    have htype := hasItems_tagCell "type" (by decide) (hasItems_typesMarkup tag.types)
    have hdescription := hasItems_tagCell "description" (by decide)
      (hasItems_text tag.description)
    simpa using htype.append hdescription
  | generic tag =>
    have hrendered := hasItems_tagCell "render" (by decide) (hasItems_text tag.rendered)
    simpa using hrendered

/-- The cells of a row tell what is shown of its tag. -/
theorem readCells?_cells (tag : Tag) :
  readCells? (tag.cells.map fun cell => (cell.style, cell.inner)) = some tag.shown
  := by
  cases tag <;>
    simp [Tag.cells, style_cellElement, inner_cellElement, readCells?, readText?_textItems,
      readTypes?_typeItems, Tag.shown, Tag.name]

/-- In a cell stand spans only. -/
theorem usesTags_of_mem_cells {tag : Tag} {cell : HtmlElement} (h : cell ∈ tag.cells) :
  cell.tag.name = "td" ∧ UsesTags ["span", "/span"] cell.inner
  := by
  have htext (role s : String) : (cellElement role (textItems s)).tag.name = "td"
      ∧ UsesTags ["span", "/span"] (cellElement role (textItems s)).inner :=
    ⟨rfl, usesTags_textItems _ s⟩
  have htypes (types : List String) : (cellElement "type" (typeItems types)).tag.name = "td"
      ∧ UsesTags ["span", "/span"] (cellElement "type" (typeItems types)).inner :=
    ⟨rfl, usesTags_typeItems types⟩
  rw [Tag.cells.eq_def, List.mem_cons] at h
  obtain rfl | h := h
  · apply htext
  cases tag with
  | param tag =>
    simp only [List.mem_cons, List.not_mem_nil, or_false] at h
    obtain rfl | rfl | rfl := h
    · apply htypes
    · apply htext
    · apply htext
  | typed tag =>
    simp only [List.mem_cons, List.not_mem_nil, or_false] at h
    obtain rfl | rfl := h
    · apply htypes
    · apply htext
  | generic tag =>
    obtain rfl := List.mem_singleton.mp h
    apply htext

theorem readRow?_rowElement (tag : Tag) :
  readRow? tag.rowElement = some tag.shown
  := by
  have hcells : elements? "td" tag.rowElement.inner = some tag.cells := by
    apply elements?_flatMap
    · intro cell hcell
      obtain ⟨hname, hinner⟩ := usesTags_of_mem_cells hcell
      apply hinner.isClosed
      simp [hname]
    · exact fun cell hcell => (usesTags_of_mem_cells hcell).1
  rw [readRow?, hcells, Option.bind_eq_bind, Option.bind_some, readCells?_cells]

theorem usesTags_rowElement (tag : Tag) :
  UsesTags ["td", "/td", "span", "/span"] tag.rowElement.inner
  := by
  apply UsesTags.flatMap
  intro cell hcell
  obtain ⟨hname, hinner⟩ := usesTags_of_mem_cells hcell
  have hmore : UsesTags ["td", "/td", "span", "/span"] cell.inner := hinner.mono (by simp)
  apply hmore.items
  · simp [hname]
  · simp [hname]

theorem Tag.rowElement_isClosed (tag : Tag) :
  tag.rowElement.IsClosed
  := by
  apply (usesTags_rowElement tag).isClosed
  simp [rowElement]

/-- Tags that are shown alike in a row are of one class and show the same. -/
theorem shown_eq_of_row {tag tag' : Tag} (h : tag.row.toHtml = tag'.row.toHtml) :
  tag.shown = tag'.shown
  := by
  have hread (tag : Tag) :
      elementsFrom? none (htmlItems tag.row.toHtml) = some [tag.rowElement] := by
    have hrow := elementsFrom?_flatMap (List.forall_mem_singleton.mpr tag.rowElement_isClosed)
    rwa [List.flatMap_singleton, ← (hasItems_row tag).htmlItems] at hrow
  have hrows := hread tag
  rw [h, hread, Option.some.injEq, List.cons.injEq] at hrows
  have hshown := readRow?_rowElement tag
  rw [← hrows.1, readRow?_rowElement] at hshown
  exact (Option.some.inj hshown).symm

/-! ### Blocks -/

/-- The table of the tags of one kind. -/
def tableElement (kind : String) (tags : List Tag) : HtmlElement where
  tag := ⟨"table", [("class", tableStyle ++ escapeText kind)]⟩
  inner := (tags.map Tag.rowElement).flatMap HtmlElement.items

/-- A free text of a block. -/
def textElement (style : String) (html : String) : HtmlElement where
  tag := ⟨"div", [("class", style)]⟩
  inner := htmlItems html

end

namespace DocBlock

section

variable [Escaping]

/-- The elements of a block. -/
def elements (block : DocBlock) : List HtmlElement :=
  textElement "dt-doc-summary" (plainHtml block.summary)
    :: (if block.description = "" then []
        else [textElement "dt-doc-description" (plainHtml block.description)])
    ++ block.tags.entries.map fun (kind, tags) => tableElement kind tags

theorem hasItems_tagTable (kind : String) (tags : List Tag) :
  HasItems (tagTable kind tags) (tableElement kind tags).items
  := by
  have hfixed : marks tableStyle = [] := by
    decide
  have hwritable : (tableElement kind tags).tag.IsWritable :=
    isWritable_styled (by decide)
      (by rw [DocTable.marks_append, hfixed, marks_escapeText, List.append_nil])
  have hrows : HasItems (tags.flatMap Tag.row) (tableElement kind tags).inner := by
    rw [tableElement, List.flatMap_map]
    exact .flatMap fun tag _ => hasItems_row tag
  apply hrows.element hwritable
  simp [tagTable, Markup.toHtml, Piece.toHtml, tableElement, tableStyle, HtmlElement.endTag,
    HtmlTag.write, writeAttributes]

theorem hasItems_textElement (style : String) (hstyle : marks style = []) (s : String) :
  HasItems (wrap ("<div class=\"" ++ style ++ "\">") [.fixed (plainHtml s)] "</div>")
    (textElement style (plainHtml s)).items
  := by
  have hwritable : (textElement style (plainHtml s)).tag.IsWritable :=
    isWritable_styled (by decide) hstyle
  apply HasItems.wrap hwritable (hasItems_plainHtml s)
  · simp [textElement, HtmlTag.write, writeAttributes]
  · simp [textElement, HtmlElement.endTag, HtmlTag.write, writeAttributes]

/-- A block is written as its elements. -/
theorem hasItems_toMarkup {block : DocBlock} (h : block.isEmpty = false) :
  HasItems (block.toMarkup plainHtml) (block.elements.flatMap HtmlElement.items)
  := by
  have hsummary := hasItems_textElement "dt-doc-summary" (by decide) block.summary
  have hdescription := hasItems_textElement "dt-doc-description" (by decide) block.description
  have htables : HasItems (block.tags.entries.flatMap fun (kind, tags) => tagTable kind tags)
      ((block.tags.entries.map fun (kind, tags) => tableElement kind tags).flatMap
        HtmlElement.items) := by
    rw [List.flatMap_map]
    exact .flatMap fun e _ => hasItems_tagTable e.1 e.2
  rw [toMarkup, h, if_neg Bool.false_ne_true, elements, List.flatMap_append, List.flatMap_cons]
  refine (hsummary.append ?_).append htables
  split
  · exact hasItems_nil
  · rw [List.flatMap_singleton]
    exact hdescription

theorem readPart?_tableElement (kind : String) (tags : List Tag) :
  readPart? (tableElement kind tags) = some (.table kind (tags.map Tag.shown))
  := by
  have hrows : elements? "tr" (tableElement kind tags).inner = some (tags.map Tag.rowElement) := by
    apply elements?_flatMap
    · intro row hrow
      obtain ⟨tag, -, rfl⟩ := List.mem_map.mp hrow
      apply tag.rowElement_isClosed
    · intro row hrow
      obtain ⟨tag, -, rfl⟩ := List.mem_map.mp hrow
      rfl
  have hkind : (tableElement kind tags).kind = kind := by
    have hstyle : (tableElement kind tags).style = tableStyle ++ escapeText kind := rfl
    rw [HtmlElement.kind, hstyle, String.toList_append, ← String.length_toList, List.drop_left,
      unescapeChars_escapeText, String.ofList_toList]
  have htags := mapM_map_eq_some fun tag (_ : tag ∈ tags) => readRow?_rowElement tag
  have hdiv : (tableElement kind tags).tag.name ≠ "div" := by
    simp [tableElement]
  have htable : (tableElement kind tags).tag.name = "table" := rfl
  rw [readPart?, if_neg hdiv, if_pos htable, hrows, Option.bind_eq_bind, Option.bind_some, htags,
    hkind]
  rfl

theorem tableElement_isClosed (kind : String) (tags : List Tag) :
  (tableElement kind tags).IsClosed
  := by
  have hrows : UsesTags ["tr", "/tr", "td", "/td", "span", "/span"]
      (tableElement kind tags).inner := by
    apply UsesTags.flatMap
    intro row hrow
    obtain ⟨tag, -, rfl⟩ := List.mem_map.mp hrow
    have hname : tag.rowElement.tag.name = "tr" := rfl
    have hinner : UsesTags ["tr", "/tr", "td", "/td", "span", "/span"] tag.rowElement.inner :=
      (usesTags_rowElement tag).mono (by simp)
    apply hinner.items
    · simp [hname]
    · simp [hname]
  apply hrows.isClosed
  simp [tableElement]

theorem textElement_isClosed (style s : String) :
  (textElement style (plainHtml s)).IsClosed
  := by
  have hinner : UsesTags ["br"] (textElement style (plainHtml s)).inner := usesTags_plainHtml s
  apply hinner.isClosed
  simp [textElement]

theorem isClosed_of_mem_elements {block : DocBlock} {e : HtmlElement} (he : e ∈ block.elements) :
  e.IsClosed
  := by
  rw [elements, List.mem_append, List.mem_cons] at he
  obtain (rfl | he) | he := he
  · apply textElement_isClosed
  · split at he
    · contradiction
    · obtain rfl := List.mem_singleton.mp he
      apply textElement_isClosed
  · obtain ⟨⟨kind, tags⟩, -, rfl⟩ := List.mem_map.mp he
    apply tableElement_isClosed

theorem mapM_readPart?_elements (block : DocBlock) :
  block.elements.mapM readPart? = some block.parts
  := by
  have htables : (block.tags.entries.map fun (kind, tags) => tableElement kind tags).mapM readPart?
      = some (block.tags.entries.map fun (kind, tags) => .table kind (tags.map Tag.shown)) :=
    mapM_map_eq_some fun e _ => readPart?_tableElement e.1 e.2
  rw [elements, parts, List.mapM_append, htables]
  split <;> rfl

/-- The parts of a block that is not empty are read back from what is written for it, and a row
tells what is shown of its tag. -/
theorem readParts?_toHtml {block : DocBlock} (h : block.isEmpty = false) :
  readParts? (block.toHtml plainHtml) = some block.parts
    ∧ ∀ tag tag' : Tag, tag.row.toHtml = tag'.row.toHtml → tag.shown = tag'.shown
  := by
  refine ⟨?_, fun _ _ => shown_eq_of_row⟩
  have hitems : htmlItems (block.toHtml plainHtml) = block.elements.flatMap HtmlElement.items :=
    (hasItems_toMarkup h).htmlItems
  rw [readParts?, hitems, elementsFrom?_flatMap fun e he => isClosed_of_mem_elements he,
    Option.bind_eq_bind, Option.bind_some, mapM_readPart?_elements]

end

/-- A block of which the texts hold tags, character references and bars. -/
def markedBlock : DocBlock where
  summary := "<div>"
  tags := OrderedMap.empty.put "\x22><tr>" [
    .param {
      name := "param"
      type := "<span>|</span>"
      variableName := "a"
      description := "</td>&amp;"
      rendered := ""
      variadic := true },
    .generic { name := "</tr>", rendered := "<span>|</span>" }]

/-- The texts of the block are read as they are. -/
theorem readParts?_markedBlock :
  markedBlock.isEmpty = false
    ∧ readParts? (markedBlock.toHtml plainHtml)
      = some [.text "dt-doc-summary" (textItems "<div>"),
        .table "\x22><tr>" [
          .param "@param" ["<span>", "</span>"] "...$a" "</td>&amp;",
          .generic "@</tr>" "<span>|</span>"]]
  := by
  have hempty : markedBlock.isEmpty = false := by
    decide
  refine ⟨hempty, (readParts?_toHtml hempty).1.trans ?_⟩
  decide +kernel

end DocBlock

end DocTable
