import DocTable.DocBlock.Markup
import DocTable.Markup.Entities
import DocTable.Proofs.Markup.Marks
import DocTable.Proofs.Table.Layout
import DocTable.Report.Page
import Mathlib.Data.List.Forall2

/-!
# No text becomes markup

The shape of a snapshot says how many symbols, members, parameters, tags and lines there are, of
which kinds they are, and which of their texts are empty.  It does not say what the texts are.

Snapshots of the same shape have reports with the same marks in the body of the table, whatever
their texts are: no text of a symbol or of a comment begins a tag or ends the value of an attribute.
The proof goes along the layout: markups, cells and rows of things of the same shape are alike.
-/

namespace DocTable

/-! ### Shapes -/

/-- What the report tells of a text apart from its characters. -/
structure TextShape where
  isEmpty : Bool
  lines : Nat
  deriving DecidableEq

/-- The shape of a text. -/
def textShape (s : String) : TextShape where
  isEmpty := s = ""
  lines := (Text.splitLines s.toList).length

/-- The shape of a tag: its class, and the number of members of its type. -/
structure TagShape where
  tagClass : TagClass
  unionMembers : Nat
  deriving DecidableEq

/-- The shape of a tag. -/
def Tag.shape : Tag → TagShape
  | .param tag => ⟨.param, tag.types.length⟩
  | .typed tag => ⟨.typed, tag.types.length⟩
  | .generic _ => ⟨.generic, 0⟩

/-- The shape of a documentation block. -/
structure DocBlockShape where
  summary : TextShape
  description : TextShape
  tags : List (List TagShape)
  deriving DecidableEq

/-- The shape of a documentation block. -/
def DocBlock.shape (block : DocBlock) : DocBlockShape where
  summary := textShape block.summary
  description := textShape block.description
  tags := block.tags.values.map (List.map Tag.shape)

/-- The shape of a parameter. -/
structure ParameterShape where
  hasType : Bool
  hasDefault : Bool
  deriving DecidableEq

/-- The shape of a parameter. -/
def Parameter.shape (p : Parameter) : ParameterShape where
  hasType := p.type ≠ ""
  hasDefault := p.defaultText ≠ ""

/-- The shape of a member. -/
structure MemberShape where
  kind : MemberKind
  hasModifiers : Bool
  hasType : Bool
  hasDefault : Bool
  docBlock : DocBlockShape
  parameters : List ParameterShape
  deriving DecidableEq

/-- The shape of a member. -/
def Member.shape (m : Member) : MemberShape where
  kind := m.kind
  hasModifiers := !m.modifiers.isEmpty
  hasType := m.type ≠ ""
  hasDefault := m.defaultText ≠ ""
  docBlock := m.docBlock.shape
  parameters := m.parameters.map Parameter.shape

/-- The shape of a symbol. -/
structure SymbolShape where
  isOrdinary : Bool
  hasModifiers : Bool
  hasParent : Bool
  hasInterfaces : Bool
  docBlock : DocBlockShape
  constants : List MemberShape
  properties : List MemberShape
  methods : List MemberShape
  deriving DecidableEq

/-- The shape of a symbol. -/
def Symbol.shape (s : Symbol) : SymbolShape where
  isOrdinary := s.kind = .ordinary
  hasModifiers := !s.modifiers.isEmpty
  hasParent := s.parent ≠ ""
  hasInterfaces := !s.interfaces.isEmpty
  docBlock := s.docBlock.shape
  constants := s.constants.values.map Member.shape
  properties := s.properties.values.map Member.shape
  methods := s.methods.values.map Member.shape

/-- The shape of a snapshot: the shapes of the symbols of each namespace. -/
def snapshotShape (snapshot : Snapshot) : List (List SymbolShape) :=
  snapshot.values.map fun symbols => symbols.values.map Symbol.shape

/-! ### Lists of things of the same shape -/

section

variable {α β γ : Type}

/-- Lists with the same shapes have items of the same shape at the same places. -/
theorem forall₂_of_map_eq {shape : α → β} {xs ys : List α} (h : xs.map shape = ys.map shape) :
  List.Forall₂ (fun x y => shape x = shape y) xs ys
  := by
  rw [← List.forall₂_eq_eq_eq, List.forall₂_map_left_iff, List.forall₂_map_right_iff] at h
  exact h

theorem flatMap_eq_of_forall₂ {r : α → α → Prop} {f g : α → List γ} {xs ys : List α}
    (h : List.Forall₂ r xs ys) (hr : ∀ x y, r x y → f x = g y) :
  xs.flatMap f = ys.flatMap g
  := by
  induction h with
  | nil => rfl
  | cons hhead _ ih => rw [List.flatMap_cons, List.flatMap_cons, hr _ _ hhead, ih]

theorem map_eq_of_forall₂ {r : α → α → Prop} {f g : α → γ} {xs ys : List α}
    (h : List.Forall₂ r xs ys) (hr : ∀ x y, r x y → f x = g y) :
  xs.map f = ys.map g
  := by
  induction h with
  | nil => rfl
  | cons hhead _ ih => rw [List.map_cons, List.map_cons, hr _ _ hhead, ih]

end

/-! ### Documentation -/

theorem marks_plainHtml [Escaping] (s : String) :
  marks (plainHtml s) = (marks "<br>\n").intercalate (List.replicate (textShape s).lines [])
  := by
  rw [plainHtml, Markup.marks_toHtml, Markup.marks_ofPlain, textShape]

theorem marks_typesMarkup (types : List String) :
  (typesMarkup types).marks
    = (marks "<span>|</span>").intercalate
        (List.replicate types.length (marks "<span>" ++ marks "</span>"))
  := by
  rw [typesMarkup, Markup.marks_join, List.map_map, ← List.map_const']
  rfl

theorem Tag.marks_row {tag tag' : Tag} (h : tag.shape = tag'.shape) :
  tag.row.marks = tag'.row.marks
  := by
  cases tag <;> cases tag' <;>
    simp only [Tag.shape, TagShape.mk.injEq, reduceCtorEq, false_and] at h
  case param.param =>
    simp [Tag.row, tagCell, marks_typesMarkup, h.2]
  case typed.typed =>
    simp [Tag.row, tagCell, marks_typesMarkup, h.2]
  case generic.generic =>
    simp [Tag.row, tagCell]

namespace DocBlock

variable {block block' : DocBlock}

theorem isEmpty_of_shape_eq (h : block.shape = block'.shape) :
  block.isEmpty = block'.isEmpty
  := by
  simp only [shape, textShape, DocBlockShape.mk.injEq, TextShape.mk.injEq] at h
  obtain ⟨⟨hsummary, -⟩, -, htags⟩ := h
  have hlength := congrArg List.isEmpty htags
  simp only [List.isEmpty_map, OrderedMap.values] at hlength
  rw [isEmpty, isEmpty, hsummary, OrderedMap.isEmpty, OrderedMap.isEmpty, hlength]

/-- The marks of the table of a kind of tag come from the rows alone. -/
theorem marks_tagTable {kind kind' : String} {tags tags' : List Tag}
    (h : tags.map Tag.shape = tags'.map Tag.shape) :
  (tagTable kind tags).marks = (tagTable kind' tags').marks
  := by
  have hrows := flatMap_eq_of_forall₂ (forall₂_of_map_eq h) fun _ _ => Tag.marks_row
  simp [tagTable, hrows]

/-- Documentation of the same shape has the same marks. -/
theorem marks_toMarkup [Escaping] (h : block.shape = block'.shape) :
  (block.toMarkup plainHtml).marks = (block'.toMarkup plainHtml).marks
  := by
  have hempty := isEmpty_of_shape_eq h
  simp only [shape, DocBlockShape.mk.injEq] at h
  obtain ⟨hsummary, hdescription, htags⟩ := h
  have hnone : block.description = "" ↔ block'.description = "" := by
    simpa [textShape] using congrArg TextShape.isEmpty hdescription
  have htables : block.tags.entries.flatMap (fun e => (tagTable e.1 e.2).marks)
      = block'.tags.entries.flatMap fun e => (tagTable e.1 e.2).marks := by
    simp only [OrderedMap.values, List.map_map] at htags
    exact flatMap_eq_of_forall₂ (forall₂_of_map_eq htags) fun _ _ => marks_tagTable
  simp only [toMarkup, hempty, hnone]
  split_ifs
  · rfl
  · simp [marks_plainHtml, hsummary, htables]
  · simp [marks_plainHtml, hsummary, hdescription, htables]

end DocBlock

/-! ### Counts -/

theorem OrderedMap.size_of_map_values_eq {α β : Type} {f : α → β} {m n : OrderedMap String α}
    (h : m.values.map f = n.values.map f) :
  m.size = n.size ∧ m.isEmpty = n.isEmpty
  := by
  constructor
  · simpa [values, size] using congrArg List.length h
  · simpa [values, isEmpty] using congrArg List.isEmpty h

/-- Symbols of the same shape have as many rows. -/
theorem Symbol.rowCount_of_shape_eq {s s' : Symbol} (h : s.shape = s'.shape) :
  s.rowCount = s'.rowCount
  := by
  simp only [shape, SymbolShape.mk.injEq] at h
  obtain ⟨-, -, -, -, hdoc, hconstants, hproperties, hmethods⟩ := h
  obtain ⟨hconstants, hnoConstants⟩ := OrderedMap.size_of_map_values_eq hconstants
  obtain ⟨hproperties, hnoProperties⟩ := OrderedMap.size_of_map_values_eq hproperties
  obtain ⟨hmethods, hnoMethods⟩ := OrderedMap.size_of_map_values_eq hmethods
  rw [rowCount, rowCount, hasMembers, hasMembers, hconstants, hnoConstants, hproperties,
    hnoProperties, hmethods, hnoMethods, DocBlock.isEmpty_of_shape_eq hdoc]

theorem namespaceRowCount_of_shapes_eq {symbols symbols' : OrderedMap String Symbol}
    (h : symbols.values.map Symbol.shape = symbols'.values.map Symbol.shape) :
  namespaceRowCount symbols = namespaceRowCount symbols'
  := by
  rw [namespaceRowCount, namespaceRowCount,
    map_eq_of_forall₂ (forall₂_of_map_eq h) fun _ _ => Symbol.rowCount_of_shape_eq]

/-! ### Cells -/

namespace Report

@[simp]
theorem marks_onlyIf (condition : Bool) (m : Markup) :
  (onlyIf condition m).marks = if condition then m.marks else []
  := by
  cases condition with
  | true => rfl
  | false => rfl

@[simp]
theorem marks_span (styleClass text : String) :
  (span styleClass text).marks
    = marks ("<span class=\"" ++ styleClass ++ "\">") ++ marks "</span>"
  := by
  simp [span]

/-- Cells whose marks are the same, whatever the classes of their rows. -/
def CellsAlike (cell cell' : Cell) : Prop :=
  ∀ owner owner', (cellMarkup owner cell).marks = (cellMarkup owner' cell').marks

theorem marks_parametersMarkup {ps ps' : List Parameter}
    (h : List.Forall₂ (fun p p' => p.shape = p'.shape) ps ps') :
  (parametersMarkup ps).marks = (parametersMarkup ps').marks
  := by
  induction h with
  | nil => rfl
  | @cons p p' ps ps' hp hps ih =>
    simp only [Parameter.shape, ParameterShape.mk.injEq] at hp
    have hlast : ps.isEmpty = ps'.isEmpty := by
      cases hps with
      | nil => rfl
      | cons _ _ => rfl
    simp only [parametersMarkup, parameterMarkup, Markup.marks_append, Markup.marks_fixed,
      Markup.marks_text, Markup.marks_wrap, marks_onlyIf, marks_span, hp, hlast, ih]

theorem cellsAlike_member {m m' : Member} (h : m.shape = m'.shape) (content content' : String) :
  CellsAlike { role := m.kind.role, content := content, subject := .member m }
    { role := m'.kind.role, content := content', subject := .member m' }
  := by
  intro owner owner'
  simp only [Member.shape, MemberShape.mk.injEq] at h
  obtain ⟨hkind, -, htype, hdefault, -, hparameters⟩ := h
  have hmarks := marks_parametersMarkup (forall₂_of_map_eq hparameters)
  have hnone : m.parameters.isEmpty = m'.parameters.isEmpty := by
    simpa using congrArg List.isEmpty hparameters
  have hanchor : (memberAnchor owner m).marks = (memberAnchor owner' m').marks := by
    simp [memberAnchor, anchor, hkind]
  have hdefaults : (defaultMarkup m).marks = (defaultMarkup m').marks := by
    simp only [defaultMarkup, Markup.marks_append, Markup.marks_fixed, marks_onlyIf, marks_span,
      hdefault]
  rw [cellMarkup, cellMarkup, hkind]
  simp only [Markup.marks_wrap]
  congr 2
  cases m'.kind with
  | constant =>
    simp [MemberKind.role, contentMarkup, constantMarkup, hanchor, hdefaults]
  | property =>
    simp only [MemberKind.role, contentMarkup, propertyMarkup, Markup.marks_append,
      Markup.marks_fixed, Markup.marks_text, Markup.marks_wrap, marks_onlyIf, marks_span, hanchor,
      hdefaults, htype]
  | method =>
    simp only [MemberKind.role, contentMarkup, methodMarkup, Markup.marks_append,
      Markup.marks_fixed, Markup.marks_text, Markup.marks_wrap, marks_onlyIf, marks_span, hanchor,
      hmarks, hnone, htype]

/-! ### Rows -/

/-- Rows of the same kind whose cells are alike. -/
structure RowsAlike (row row' : Row) : Prop where
  kind : row.kind = row'.kind
  startsGroup : row.startsGroup = row'.startsGroup
  cells : List.Forall₂ CellsAlike row.cells row'.cells

theorem RowsAlike.marks {row row' : Row} (h : RowsAlike row row') :
  (rowMarkup row).marks = (rowMarkup row').marks
  := by
  have hcells (owner owner' : String) :
      (row.cells.flatMap fun cell =>
          (Markup.wrap "                " (cellMarkup owner cell) "\n").marks)
        = row'.cells.flatMap fun cell =>
          (Markup.wrap "                " (cellMarkup owner' cell) "\n").marks := by
    apply flatMap_eq_of_forall₂ h.cells
    intro cell cell' hcell
    rw [Markup.marks_wrap, Markup.marks_wrap, hcell owner owner']
  simp only [rowMarkup, Markup.marks_wrap (_ ++ _), Markup.marks_flatMap, h.kind, h.startsGroup]
  rw [hcells]

theorem RowsAlike.lead {row row' : Row} {waiting waiting' classCell classCell' : Option Cell}
    (hwaiting : Option.Rel CellsAlike waiting waiting')
    (hclass : Option.Rel CellsAlike classCell classCell') (h : RowsAlike row row') :
  RowsAlike (Table.lead waiting classCell row) (Table.lead waiting' classCell' row')
  where
  kind := h.kind
  startsGroup := by
    cases hclass with
    | none => exact h.startsGroup
    | some _ => rfl
  cells := by
    have hlist {cell cell' : Option Cell} (hcell : Option.Rel CellsAlike cell cell') :
        List.Forall₂ CellsAlike cell.toList cell'.toList := by
      cases hcell with
      | none => apply List.Forall₂.nil
      | some hcell => apply List.Forall₂.cons hcell .nil
    exact List.rel_append (List.rel_append (hlist hwaiting) (hlist hclass)) h.cells

theorem rowsAlike_modifyHead {rows rows' : List Row} {f g : Row → Row}
    (h : List.Forall₂ RowsAlike rows rows')
    (hf : ∀ row row', RowsAlike row row' → RowsAlike (f row) (g row')) :
  List.Forall₂ RowsAlike (rows.modifyHead f) (rows'.modifyHead g)
  := by
  cases h with
  | nil => apply List.Forall₂.nil
  | cons hhead htail => apply List.Forall₂.cons (hf _ _ hhead) htail

/-! ### Cells of documentation -/

section

variable [Escaping]

/-- The documentation that the report shows for a block. -/
abbrev plainDoc : DocBlock → String :=
  DocBlock.toHtml plainHtml

theorem marks_plainDoc {block block' : DocBlock} (h : block.shape = block'.shape) :
  marks (plainDoc block) = marks (plainDoc block')
  := by
  rw [plainDoc, DocBlock.toHtml, DocBlock.toHtml, Markup.marks_toHtml, Markup.marks_toHtml,
    DocBlock.marks_toMarkup h]

/-- The cells of the documentation of members are alike. -/
theorem cellsAlike_docs {m m' : Member} (h : m.shape = m'.shape) :
  CellsAlike
    { role := .docs
      content := if m.docBlock.isEmpty then "" else plainDoc m.docBlock
      subject := .member m
      isEmpty := m.docBlock.isEmpty }
    { role := .docs
      content := if m'.docBlock.isEmpty then "" else plainDoc m'.docBlock
      subject := .member m'
      isEmpty := m'.docBlock.isEmpty }
  := by
  intro owner owner'
  have hdoc := congrArg MemberShape.docBlock h
  have hmarks := marks_plainDoc hdoc
  have hempty := DocBlock.isEmpty_of_shape_eq hdoc
  simp only [cellMarkup, contentMarkup, Markup.marks_wrap, hempty]
  cases m'.docBlock.isEmpty with
  | true => rfl
  | false => simp [hmarks]

theorem cellsAlike_classDocs {s s' : Symbol} (h : s.shape = s'.shape) :
  CellsAlike
    { role := .classDocs, content := plainDoc s.docBlock, colSpan := 2, subject := .symbol s }
    { role := .classDocs, content := plainDoc s'.docBlock, colSpan := 2, subject := .symbol s' }
  := by
  intro owner owner'
  have hmarks := marks_plainDoc (congrArg SymbolShape.docBlock h)
  simp [cellMarkup, contentMarkup, hmarks]

theorem cellsAlike_class {s s' : Symbol} (h : s.shape = s'.shape) :
  CellsAlike (Table.classCell s) (Table.classCell s')
  := by
  intro owner owner'
  have hcount := Symbol.rowCount_of_shape_eq h
  simp only [Symbol.shape, SymbolShape.mk.injEq] at h
  obtain ⟨hordinary, hmodifiers, hparent, hinterfaces, -⟩ := h
  have hkind : decide (s.kind ≠ .ordinary) = decide (s'.kind ≠ .ordinary) := by
    simpa using hordinary
  simp only [cellMarkup, contentMarkup, Table.classCell, classMarkup, anchor, relation,
    Markup.marks_append, Markup.marks_fixed, Markup.marks_text, Markup.marks_wrap, marks_onlyIf,
    marks_span, hcount, hmodifiers, hkind, hparent, hinterfaces]

theorem cellsAlike_namespace {name name' : String} {symbols symbols' : OrderedMap String Symbol}
    (h : namespaceRowCount symbols = namespaceRowCount symbols') :
  CellsAlike (Table.namespaceCell name symbols) (Table.namespaceCell name' symbols')
  := by
  intro owner owner'
  simp [cellMarkup, contentMarkup, Table.namespaceCell, namespaceMarkup, anchor, h]

/-! ### Tables -/

theorem rowsAlike_ownRows {s s' : Symbol} (h : s.shape = s'.shape) :
  List.Forall₂ RowsAlike (Table.ownRows plainDoc s) (Table.ownRows plainDoc s')
  := by
  have hsummary : RowsAlike (Table.summaryRow plainDoc s) (Table.summaryRow plainDoc s') :=
    ⟨rfl, rfl, .cons (cellsAlike_classDocs h) .nil⟩
  have hempty := DocBlock.isEmpty_of_shape_eq (congrArg SymbolShape.docBlock h)
  simp only [Symbol.shape, SymbolShape.mk.injEq] at h
  obtain ⟨-, -, -, -, -, hconstants, hproperties, hmethods⟩ := h
  have hmembers : s.members.map Member.shape = s'.members.map Member.shape := by
    simp only [Symbol.members, List.map_append, hconstants, hproperties, hmethods]
  rw [Table.ownRows, Table.ownRows, hempty]
  apply List.rel_append
  · split
    · apply List.Forall₂.nil
    · apply List.Forall₂.cons hsummary .nil
  · rw [List.forall₂_map_left_iff, List.forall₂_map_right_iff]
    apply (forall₂_of_map_eq hmembers).imp
    intro m m' hm
    exact {
      kind := congrArg (fun shape => shape.kind.rowKind) hm
      startsGroup := rfl
      cells := .cons (cellsAlike_member hm _ _) (.cons (cellsAlike_docs hm) .nil) }

theorem rowsAlike_classRows {s s' : Symbol} (h : s.shape = s'.shape) :
  List.Forall₂ RowsAlike (Table.classRows plainDoc s) (Table.classRows plainDoc s')
  := by
  rw [Table.classRows, Table.classRows, Symbol.rowCount_of_shape_eq h]
  split
  · apply List.Forall₂.nil
  · apply rowsAlike_modifyHead (rowsAlike_ownRows h)
    intro row row' hrow
    apply RowsAlike.lead .none (.some (cellsAlike_class h)) hrow

theorem rowsAlike_namespaceRows {name name' : String} {symbols symbols' : OrderedMap String Symbol}
    (h : symbols.values.map Symbol.shape = symbols'.values.map Symbol.shape) :
  List.Forall₂ RowsAlike (Table.namespaceRows plainDoc name symbols)
    (Table.namespaceRows plainDoc name' symbols')
  := by
  rw [Table.namespaceRows_eq, Table.namespaceRows_eq]
  apply rowsAlike_modifyHead
  · apply List.rel_flatMap (forall₂_of_map_eq h)
    intro s s' hs
    apply rowsAlike_classRows hs
  · intro row row' hrow
    apply RowsAlike.lead (.some ?_) .none hrow
    apply cellsAlike_namespace (namespaceRowCount_of_shapes_eq h)

theorem rowsAlike_build {snapshot snapshot' : Snapshot}
    (h : snapshotShape snapshot = snapshotShape snapshot') :
  List.Forall₂ RowsAlike (Table.build snapshot plainDoc) (Table.build snapshot' plainDoc)
  := by
  rw [snapshotShape, snapshotShape, OrderedMap.values, OrderedMap.values, List.map_map,
    List.map_map] at h
  apply List.rel_flatMap (forall₂_of_map_eq h)
  rintro ⟨name, symbols⟩ ⟨name', symbols'⟩ hsymbols
  apply rowsAlike_namespaceRows hsymbols

/-! ### The body of the table -/

/-- The HTML of the body of a table. -/
def bodyHtml (table : Table) : String :=
  (bodyMarkup table).toHtml

theorem marks_bodyHtml {table table' : Table} (h : List.Forall₂ RowsAlike table table') :
  marks (bodyHtml table) = marks (bodyHtml table')
  := by
  have hrows := flatMap_eq_of_forall₂ h fun _ _ hrow => hrow.marks
  have hempty : table.isEmpty = table'.isEmpty := by
    cases h with
    | nil => rfl
    | cons _ _ => rfl
  rw [bodyHtml, bodyHtml, Markup.marks_toHtml, Markup.marks_toHtml, bodyMarkup, bodyMarkup,
    Markup.marks_wrap, Markup.marks_wrap, hempty]
  split
  · rfl
  · rw [Markup.marks_flatMap, Markup.marks_flatMap, hrows]

/-- A page is its head, the body of its table, and its tail. -/
theorem html_eq (style : String) (settings : Settings) (making : Making) (table : Table) :
  html style settings making table
    = (headMarkup style settings).toHtml ++ bodyHtml table ++ (tailMarkup settings making).toHtml
  := by
  rw [html, page, Markup.toHtml_append, Markup.toHtml_append, bodyHtml]

/-- Of snapshots of the same shape, the pages differ only in the body of the table, and there in
nothing that begins or ends a tag or the value of an attribute. -/
theorem page_marks_determined_by_shape {snapshot snapshot' : Snapshot}
    (h : snapshotShape snapshot = snapshotShape snapshot') (style : String) (settings : Settings)
    (making : Making) :
  ∃ before after,
    html style settings making (Table.build snapshot plainDoc)
        = before ++ bodyHtml (Table.build snapshot plainDoc) ++ after
      ∧ html style settings making (Table.build snapshot' plainDoc)
        = before ++ bodyHtml (Table.build snapshot' plainDoc) ++ after
      ∧ marks (bodyHtml (Table.build snapshot plainDoc))
        = marks (bodyHtml (Table.build snapshot' plainDoc))
  := by
  use (headMarkup style settings).toHtml, (tailMarkup settings making).toHtml
  exact ⟨html_eq _ _ _ _, html_eq _ _ _ _, marks_bodyHtml (rowsAlike_build h)⟩

end

/-- A snapshot of one class with a method, all texts of which are the same. -/
def uniform (text : String) : Snapshot :=
  let block : DocBlock := {
    summary := text
    description := text
    tags := OrderedMap.empty.put text [
      .param {
        name := text, type := text, variableName := text, description := text, rendered := text },
      .generic { name := text, rendered := text }] }
  let method : Member := {
    name := text
    kind := .method
    modifiers := [text]
    type := text
    docBlock := block
    parameters := [{ name := text, type := text, defaultText := text }] }
  OrderedMap.empty.put text (OrderedMap.empty.put text {
    shortName := text
    fullName := text
    namespaceName := text
    sourceFile := text
    modifiers := [text]
    parent := text
    interfaces := [text]
    docBlock := block
    methods := OrderedMap.empty.put text method })

/-- Texts that look like tags leave the marks as they are. -/
theorem marks_uniform :
  snapshotShape (uniform "a") = snapshotShape (uniform "\"><script id='a'>")
    ∧ marks (bodyHtml (Table.build (uniform "a") plainDoc))
      = marks (bodyHtml (Table.build (uniform "\"><script id='a'>") plainDoc))
  := by
  have hshape : snapshotShape (uniform "a") = snapshotShape (uniform "\"><script id='a'>") := by
    decide +kernel
  obtain ⟨_, _, _, _, hmarks⟩ :=
    page_marks_determined_by_shape hshape "" {} ⟨"", ⟨⟨1, 1, 1⟩, 0, 0, 0, 0, none⟩⟩
  exact ⟨hshape, hmarks⟩

end Report

end DocTable
