import DocTable.Proofs.Report.Reading
import DocTable.Proofs.Table.Topics

/-!
# The ids of a report

The body of a table has an id for each cell of a namespace, of a class and of a member, and no other
if the documentation has none: `ids_build` lists them.  They are the names that the cells show,
escaped: a namespace its name, a class its full name, a member the qualified name of its class and
its own.
-/

namespace DocTable

namespace Markup

variable [Escaping]

/-- The ids in what is written for a markup, all tags of which end in it. -/
def HasIds (m : Markup) (ids : List String) : Prop :=
  ∃ tags, HasTags m tags ∧ tagIds tags = ids

/-- The ids of a markup are those of its tags. -/
theorem HasTags.hasIds {m : Markup} {tags : List HtmlTag} (h : HasTags m tags)
    {ids : List String} (hids : tagIds tags = ids) :
  HasIds m ids
  := ⟨tags, h, hids⟩

/-- An inline markup has the ids that it is known to have. -/
theorem IsInlineWith.hasIds {m : Markup} {ids : List String} (h : IsInlineWith ids m) :
  HasIds m ids
  := by
  obtain ⟨tags, htags, -, hids⟩ := h
  exact ⟨tags, htags, hids⟩

/-- Nothing has no ids. -/
theorem hasIds_nil :
  HasIds [] []
  := hasTags_nil.hasIds rfl

/-- A text has no ids. -/
theorem hasIds_text (s : String) :
  HasIds [.text s] []
  := (hasTags_text s).hasIds rfl

/-- Markups in a row have the ids of both, in their order. -/
theorem HasIds.append {m n : Markup} {ids ids' : List String} (hm : HasIds m ids)
    (hn : HasIds n ids') :
  HasIds (m ++ n) (ids ++ ids')
  := by
  obtain ⟨tags, htags, rfl⟩ := hm
  obtain ⟨tags', htags', rfl⟩ := hn
  exact (htags.append htags').hasIds (tagIds_append tags tags')

/-- Pieces without ids around a markup add none. -/
theorem HasIds.wrap {opening closing : String} {m : Markup} {ids : List String}
    (hopening : HasIds [.fixed opening] []) (hm : HasIds m ids)
    (hclosing : HasIds [.fixed closing] []) :
  HasIds (wrap opening m closing) ids
  := by
  have h := (hopening.append hm).append hclosing
  rwa [List.nil_append, List.append_nil] at h

/-- A markup that is made of a list has the ids for each element. -/
theorem HasIds.flatMap {α : Type} {f : α → Markup} {ids : α → List String} {items : List α}
    (h : ∀ a ∈ items, HasIds (f a) (ids a)) :
  HasIds (items.flatMap f) (items.flatMap ids)
  := by
  induction items with
  | nil => exact hasIds_nil
  | cons a items ih =>
    rw [List.forall_mem_cons] at h
    rw [List.flatMap_cons, List.flatMap_cons]
    exact h.1.append (ih h.2)

/-- A fixed text without ids, which is given by its characters. -/
theorem hasIds_fixed {s : String} {cs : List Char} (hs : String.ofList cs = s)
    (h : (tagsWithin? cs).map tagIds = some []) :
  HasIds [.fixed s] []
  := by
  obtain ⟨tags, htags, hids⟩ := Option.map_eq_some_iff.mp h
  exact (hasTags_fixed hs htags).hasIds hids

end Markup

/-- The anchors of the cells of a row. -/
def Row.anchors (row : Row) : List String :=
  row.cells.filterMap (·.anchor? (Report.qualifiedName row.namespaceName row.className))

/-- What stands in front of the names of the members of a symbol in their anchors. -/
def Symbol.qualifiedName (s : Symbol) : String :=
  Report.qualifiedName s.namespaceName s.shortName

/-- The anchors of the members of a symbol. -/
def Symbol.memberAnchors (s : Symbol) : List String :=
  s.members.map fun m => s.qualifiedName ++ "::" ++ m.name

/-- The anchors of all symbols, if they have members. -/
def Snapshot.anchors (snapshot : Snapshot) : List String :=
  snapshot.entries.flatMap fun (name, symbols) =>
    name :: symbols.values.flatMap fun s => s.fullName :: s.memberAnchors

namespace Report

open Markup Table

/-- The tag of a cell has no id itself. -/
theorem attribute?_cellTag (cell : Cell) :
  (cellTag cell).attribute? "id" = none
  := by
  rw [HtmlTag.attribute?, cellTag, lookup_cons_of_ne (by decide), List.lookup_append,
    lookup_spanAttributes_of_ne (by decide), lookup_spanAttributes_of_ne (by decide)]
  rfl

/-- The anchors of the cells that stand in front of the first row come first. -/
theorem anchors_modifyHead_lead {rows : List Row} (hrows : rows ≠ [])
    {waiting classCell : Option Cell} (anchors : List String)
    (h : ∀ owner, (waiting.toList ++ classCell.toList).filterMap (·.anchor? owner) = anchors) :
  (rows.modifyHead (lead waiting classCell)).flatMap Row.anchors
    = anchors ++ rows.flatMap Row.anchors
  := by
  obtain ⟨row, rest, rfl⟩ := List.exists_cons_of_ne_nil hrows
  have hfirst : (lead waiting classCell row).anchors = anchors ++ row.anchors := by
    rw [Row.anchors, lead, List.filterMap_append, h]
    rfl
  rw [List.modifyHead_cons, List.flatMap_cons, List.flatMap_cons, hfirst, List.append_assoc]

/-- A namespace that is left has symbols, and each of them has members. -/
theorem members_of_mem_pruned {snapshot : Snapshot} {e : String × OrderedMap String Symbol}
    (he : e ∈ snapshot.pruned.entries) :
  e.2.values ≠ [] ∧ ∀ s ∈ e.2.values, s.members ≠ []
  := by
  obtain ⟨hmem, hvalues⟩ := List.mem_filter.mp he
  obtain ⟨e, -, rfl⟩ := List.mem_map.mp hmem
  constructor
  · simpa using hvalues
  · intro s hs
    rw [OrderedMap.values_filter] at hs
    simpa using (List.mem_filter.mp hs).2

variable [Escaping]

/-- The ids in the body of a table. -/
def ids (table : Table) : List String :=
  tagIds (readTags (bodyMarkup table).toHtml.toList)

/-! ### Cells and rows -/

/-- The content of a cell has the id of its anchor, if it has one. -/
theorem hasIds_contentMarkup (owner : String) {cell : Cell}
    (h : HasIds [.fixed cell.content] []) :
  HasIds (contentMarkup owner cell) ((cell.anchor? owner).toList.map escapeText)
  := by
  obtain ⟨id, hid, hinline⟩ | ⟨hnone, hdocs⟩ := contentMarkup_cases owner cell
  · rw [hid]
    exact hinline.hasIds
  · rw [hnone, hdocs]
    split
    · exact (hasTags_span (by decide) "n/a").hasIds rfl
    · exact h

/-- A cell has the id of its anchor, if it has one. -/
theorem hasIds_cellMarkup (owner : String) {cell : Cell} (h : HasIds [.fixed cell.content] []) :
  HasIds (cellMarkup owner cell) ((cell.anchor? owner).toList.map escapeText)
  := by
  obtain ⟨tags, htags, hids⟩ := hasIds_contentMarkup owner h
  apply (hasTags_cellMarkup htags).hasIds
  rw [List.cons_append, tagIds_cons, tagIds_append, attribute?_cellTag, hids, Option.toList_none,
    List.nil_append]
  apply List.append_nil

/-- A row has the ids of its anchors. -/
theorem hasIds_rowMarkup {row : Row} (h : ∀ cell ∈ row.cells, HasIds [.fixed cell.content] []) :
  HasIds (rowMarkup row) (row.anchors.map escapeText)
  := by
  have hcells : HasIds
      (row.cells.flatMap fun cell => wrap "                "
        (cellMarkup (qualifiedName row.namespaceName row.className) cell) "\n")
      (row.anchors.map escapeText) := by
    rw [Row.anchors, List.filterMap_eq_flatMap_toList, List.map_flatMap]
    apply HasIds.flatMap
    intro cell hcell
    exact (hasIds_fixed rfl (by decide)).wrap (hasIds_cellMarkup _ (h cell hcell))
      (hasIds_fixed rfl (by decide))
  have hopening : HasIds _ [] := (hasTags_rowOpening row).hasIds rfl
  exact hopening.wrap hcells (hasIds_fixed rfl (by decide +kernel))

/-- The ids of a table whose documentation has none are the anchors of its cells. -/
theorem ids_eq {table : Table}
    (h : ∀ row ∈ table, ∀ cell ∈ row.cells, HasIds [.fixed cell.content] []) :
  ids table = (table.flatMap Row.anchors).map escapeText
  := by
  have hrows : HasIds (if table.isEmpty then placeholderRow else table.flatMap rowMarkup)
      ((table.flatMap Row.anchors).map escapeText) := by
    cases table with
    | nil => exact hasTags_placeholderRow.hasIds rfl
    | cons row table =>
      rw [List.map_flatMap]
      exact HasIds.flatMap fun row hrow => hasIds_rowMarkup (h row hrow)
  have hopening : HasIds [.fixed "<tbody>\n"] [] := hasIds_fixed rfl (by decide +kernel)
  have hclosing : HasIds [.fixed "        </tbody>"] [] := hasIds_fixed rfl (by decide +kernel)
  obtain ⟨tags, htags, hids⟩ := hopening.wrap hrows hclosing
  rw [ids, bodyMarkup, htags.read, hids]

/-! ### The anchors of the layout -/

variable (formatDoc : DocBlock → String)

/-- The row of a member has one anchor. -/
theorem anchors_memberRow (s : Symbol) (m : Member) :
  (memberRow formatDoc s m).anchors = [s.qualifiedName ++ "::" ++ m.name]
  := by
  obtain ⟨name, kind⟩ := m
  cases kind <;> rfl

/-- The rows of a symbol have the anchors of its members.  That for the summary has none. -/
theorem anchors_ownRows (s : Symbol) :
  (ownRows formatDoc s).flatMap Row.anchors = s.memberAnchors
  := by
  have hsummary : (if s.docBlock.isEmpty then [] else [summaryRow formatDoc s]).flatMap Row.anchors
      = [] := by
    split <;> rfl
  rw [ownRows, List.flatMap_append, hsummary, List.nil_append, List.flatMap_map,
    Symbol.memberAnchors, ← List.flatMap_pure_eq_map]
  simp only [anchors_memberRow]
  rfl

/-- With the cell of its class, a symbol has its own anchor in front of those of its members. -/
theorem anchors_classRows {s : Symbol} (h : s.members ≠ []) :
  (classRows formatDoc s).flatMap Row.anchors = s.fullName :: s.memberAnchors
  := by
  have hcount : s.rowCount ≠ 0 := mt rowCount_eq_zero_iff.mp h
  rw [classRows, if_neg hcount,
    anchors_modifyHead_lead (ownRows_ne_nil formatDoc hcount) [s.fullName] fun owner => rfl,
    anchors_ownRows, List.singleton_append]

/-- A symbol with members has rows. -/
theorem classRows_ne_nil {s : Symbol} (h : s.members ≠ []) :
  classRows formatDoc s ≠ []
  := by
  have hlength := length_classRows formatDoc s
  rintro hnil
  rw [hnil, List.length_nil] at hlength
  exact h (rowCount_eq_zero_iff.mp hlength.symm)

/-- A namespace has its anchor in front of those of its symbols. -/
theorem anchors_namespaceRows {name : String} {symbols : OrderedMap String Symbol}
    (hsymbols : symbols.values ≠ []) (hmembers : ∀ s ∈ symbols.values, s.members ≠ []) :
  (namespaceRows formatDoc name symbols).flatMap Row.anchors
    = name :: symbols.values.flatMap fun s => s.fullName :: s.memberAnchors
  := by
  have hrows : symbols.values.flatMap (classRows formatDoc) ≠ [] := by
    obtain ⟨s, rest, hvalues⟩ := List.exists_cons_of_ne_nil hsymbols
    have hs := hmembers s (hvalues ▸ List.mem_cons_self)
    rw [hvalues, List.flatMap_cons]
    exact List.append_ne_nil_of_left_ne_nil (classRows_ne_nil formatDoc hs) _
  rw [namespaceRows_eq, anchors_modifyHead_lead hrows [name] fun owner => rfl,
    List.flatMap_assoc, List.singleton_append]
  congr 1
  apply List.flatMap_congr
  intro s hs
  exact anchors_classRows formatDoc (hmembers s hs)

/-- A table has the anchors of what it shows, in the order of the snapshot. -/
theorem anchors_build (snapshot : Snapshot) :
  (build snapshot formatDoc).flatMap Row.anchors = snapshot.pruned.anchors
  := by
  rw [← build_pruned, build, List.flatMap_assoc, Snapshot.anchors]
  apply List.flatMap_congr
  intro e he
  obtain ⟨hsymbols, hmembers⟩ := members_of_mem_pruned he
  exact anchors_namespaceRows formatDoc hsymbols hmembers

/-- The ids of the report, if the documentation has none. -/
theorem ids_build {formatDoc : DocBlock → String}
    (hformat : ∀ block, HasIds [.fixed (formatDoc block)] []) (snapshot : Snapshot) :
  ids (build snapshot formatDoc) = snapshot.pruned.anchors.map escapeText
  := by
  have hescaped (s : String) : HasIds [.fixed (escapeText s)] [] := by
    refine HasTags.hasIds (showsTags_of_not_mem ?_) rfl
    simpa [toHtml, Piece.toHtml] using not_mem_escapeText s
  rw [ids_eq, anchors_build]
  intro row hrow
  obtain ⟨⟨name, symbols⟩, -, hrow⟩ := List.mem_flatMap.mp hrow
  refine forall_cells_namespaceRows (fun _ => hescaped name) (fun s _ => hescaped s.shortName) ?_
    row hrow
  intro s row hrow
  obtain ⟨-, rfl⟩ | ⟨m, -, rfl⟩ := (mem_ownRows_iff formatDoc).mp hrow
  · rw [summaryRow, List.forall_mem_singleton]
    exact hformat s.docBlock
  · rw [memberRow, List.forall_mem_cons, List.forall_mem_singleton]
    use hescaped m.name
    dsimp only
    split
    · exact hasIds_fixed rfl (by decide)
    · exact hformat m.docBlock

end Report

end DocTable
