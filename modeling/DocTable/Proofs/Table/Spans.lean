import DocTable.Proofs.Catalog.Run
import DocTable.Proofs.Table.Layout
import Mathlib.Data.List.Nodup

/-!
# Spans

`Heads` says what the cell of a group is to the rows of the group: the rows follow each other, the
first of them has the cell, no other row has one, and the cell spans just these rows.  In the table
of a catalog every namespace and every class that has a row is headed so (`SpansConserved`).

A group is told by the place that a row names, and the layout goes by the keys of the catalog, so it
matters that a catalog keeps every symbol at its own place (`WellKeyed`).
-/

namespace DocTable

/-- The cells of a role in a row. -/
def Row.cellsOf (row : Row) (role : CellRole) : List Cell :=
  row.cells.filter (·.role = role)

/-- The namespace and the class of a row. -/
def Row.place (row : Row) : String × String := (row.namespaceName, row.className)

namespace Table

/-- A cell heads the rows with the key `k`. -/
structure Heads {κ : Type} [DecidableEq κ] (t : Table) (role : CellRole) (key : Row → κ) (k : κ)
    (cell : Cell) : Prop where
  /-- The rows follow each other, and the first of them has the cell. -/
  adjacent : ∃ before first rest after, t = before ++ first :: rest ++ after
    ∧ (∀ row ∈ first :: rest, key row = k) ∧ (∀ row ∈ before ++ after, key row ≠ k)
    ∧ cell ∈ first.cells
  /-- No other cell of the role stands on them. -/
  only : (t.filter (key · = k)).flatMap (·.cellsOf role) = [cell]
  /-- The cell spans them all. -/
  rowSpan : cell.rowSpan = t.countP (key · = k)

/-- The spans of a table agree with its rows and with the catalog. -/
structure SpansConserved (catalog : Catalog) (t : Table) : Prop where
  /-- Every namespace that has a row is headed by its cell. -/
  namespaces : ∀ row ∈ t, ∃ cell,
    Heads t .namespaceName (·.namespaceName) row.namespaceName cell
      ∧ cell.subject = .namespaceName row.namespaceName
  /-- Every class that has a row is headed by its cell, which spans as many rows as are counted. -/
  classes : ∀ row ∈ t, ∃ s cell, catalog.find? row.namespaceName row.className = some s
    ∧ Heads t .className (·.place) row.place cell
    ∧ cell.rowSpan = s.rowCount ∧ cell.subject = .symbol s
  /-- The rows that start a group are those with the cell of a class. -/
  groups : ∀ row ∈ t, row.startsGroup = true ↔ ∃ cell ∈ row.cells, cell.role = .className
  /-- There are as many rows as are counted for all symbols. -/
  total : t.length = ((catalog.values.flatMap OrderedMap.values).map Symbol.rowCount).sum

/-! ### Blocks of rows -/

/-- A block of rows with one key is headed by the only cell of a role in it. -/
theorem heads_of_block {κ : Type} [DecidableEq κ] {before rest after : List Row} {first : Row}
    {role : CellRole} {key : Row → κ} {k : κ} {cell : Cell}
    (hblock : ∀ row ∈ first :: rest, key row = k) (hother : ∀ row ∈ before ++ after, key row ≠ k)
    (hfirst : first.cellsOf role = [cell]) (hrest : ∀ row ∈ rest, row.cellsOf role = [])
    (hspan : cell.rowSpan = rest.length + 1) :
  Heads (before ++ first :: rest ++ after) role key k cell
  := by
  have hbefore : before.filter (key · = k) = [] := by
    rw [List.filter_eq_nil_iff]
    intro row hrow
    simpa using hother row (List.mem_append_left _ hrow)
  have hafter : after.filter (key · = k) = [] := by
    rw [List.filter_eq_nil_iff]
    intro row hrow
    simpa using hother row (List.mem_append_right _ hrow)
  have hgroup : (before ++ first :: rest ++ after).filter (key · = k) = first :: rest := by
    rw [List.filter_append, List.filter_append, hbefore, hafter, List.nil_append, List.append_nil,
      List.filter_eq_self]
    intro row hrow
    simpa using hblock row hrow
  constructor
  · have hcell : cell ∈ first.cellsOf role := by
      rw [hfirst]
      apply List.mem_singleton_self
    use before, first, rest, after, rfl, hblock, hother, (List.mem_filter.mp hcell).1
  · rw [hgroup, List.flatMap_cons, hfirst, List.flatMap_eq_nil_iff.mpr hrest, List.append_nil]
  · rw [List.countP_eq_length_filter, hgroup, List.length_cons, hspan]

/-- The rows of one entry among those of all, if the keys of the rows are those of the entries. -/
theorem flatMap_split {κ α : Type} {es : List (κ × α)} (hnodup : (es.map Prod.fst).Nodup)
    {rows : κ × α → List Row} {key : Row → κ} (hkey : ∀ e ∈ es, ∀ row ∈ rows e, key row = e.1)
    {e : κ × α} (he : e ∈ es) :
  ∃ before after, es.flatMap rows = before ++ rows e ++ after
    ∧ ∀ row ∈ before ++ after, key row ≠ e.1
  := by
  obtain ⟨es₁, es₂, rfl⟩ := List.append_of_mem he
  rw [List.map_append, List.map_cons, List.nodup_middle, List.nodup_cons, ← List.map_append]
    at hnodup
  use es₁.flatMap rows, es₂.flatMap rows
  constructor
  · rw [List.flatMap_append, List.flatMap_cons, List.append_assoc]
  · intro row hrow heq
    rw [← List.flatMap_append, List.mem_flatMap] at hrow
    obtain ⟨e', he', hrow⟩ := hrow
    have hmem : e' ∈ es₁ ++ e :: es₂ := by
      rw [List.mem_append] at he' ⊢
      exact he'.imp_right (List.mem_cons_of_mem e)
    apply hnodup.1
    rw [← heq, hkey e' hmem row hrow]
    apply List.mem_map_of_mem he'

theorem mem_modifyHead {α : Type} {f : α → α} {xs : List α} {x : α} (h : x ∈ xs.modifyHead f) :
  x ∈ xs ∨ ∃ y ∈ xs, x = f y
  := by
  cases xs with
  | nil => simp at h
  | cons y ys =>
    rw [List.modifyHead_cons, List.mem_cons] at h
    obtain rfl | h := h
    · right
      use y, List.mem_cons_self
    · left
      apply List.mem_cons_of_mem y h

/-! ### The rows of a symbol -/

variable [Escaping] (formatDoc : DocBlock → String)

/-- A row of a symbol before cells are placed in front of it. -/
structure IsOwn (s : Symbol) (row : Row) : Prop where
  place : row.place = s.place
  startsGroup : row.startsGroup = false
  noNamespaceCell : row.cellsOf .namespaceName = []
  noClassCell : row.cellsOf .className = []

theorem isOwn_of_mem {s : Symbol} {row : Row} (h : row ∈ ownRows formatDoc s) :
  IsOwn s row
  := by
  obtain ⟨-, rfl⟩ | ⟨m, -, rfl⟩ := (mem_ownRows_iff formatDoc).mp h
  · exact ⟨rfl, rfl, rfl, rfl⟩
  · constructor
    · rfl
    · rfl
    · cases hkind : m.kind <;> simp [Row.cellsOf, memberRow, MemberKind.role, hkind]
    · cases hkind : m.kind <;> simp [Row.cellsOf, memberRow, MemberKind.role, hkind]

/-- A row of a symbol with the cell of its class, if it is the first. -/
structure IsClassRow (s : Symbol) (row : Row) : Prop where
  place : row.place = s.place
  hasRows : s.rowCount ≠ 0
  noNamespaceCell : row.cellsOf .namespaceName = []
  startsGroup_iff : row.startsGroup = true ↔ row.cellsOf .className ≠ []

theorem isClassRow_of_mem {s : Symbol} {row : Row} (h : row ∈ classRows formatDoc s) :
  IsClassRow s row
  := by
  rw [classRows] at h
  split at h
  case isTrue => simp at h
  case isFalse hrows =>
    obtain hmem | ⟨own, hmem, rfl⟩ := mem_modifyHead h
    · have hown := isOwn_of_mem formatDoc hmem
      use hown.place, hrows, hown.noNamespaceCell
      simp [hown.startsGroup, hown.noClassCell]
    · have hown := isOwn_of_mem formatDoc hmem
      use hown.place, hrows
      · simpa [Row.cellsOf, lead, classCell] using hown.noNamespaceCell
      · simp [Row.cellsOf, lead, classCell]

/-- The rows of a symbol are headed by the cell of its class, whatever waits for the first. -/
theorem exists_headed_rows {s : Symbol} (h : s.rowCount ≠ 0) (waiting : Option Cell)
    (hwaiting : ∀ cell ∈ waiting, cell.role = .namespaceName) :
  ∃ first rest, (classRows formatDoc s).modifyHead (lead waiting none) = first :: rest
    ∧ first.cellsOf .className = [classCell s] ∧ (∀ row ∈ rest, row.cellsOf .className = [])
    ∧ s.rowCount = rest.length + 1
  := by
  obtain ⟨own, rest, hrows, hcount⟩ := exists_ownRows_cons formatDoc h
  have hown row (hrow : row ∈ own :: rest) : IsOwn s row := by
    rw [← hrows] at hrow
    apply isOwn_of_mem formatDoc hrow
  use lead waiting (classCell s) own, rest
  and_intros
  · rw [classRows, if_neg h, hrows, List.modifyHead_cons, List.modifyHead_cons, lead_lead]
  · have hlead : waiting.toList.filter (·.role = .className) = [] := by
      rw [List.filter_eq_nil_iff]
      intro cell hcell
      simp [hwaiting cell (Option.mem_toList.mp hcell)]
    have hnone := (hown own List.mem_cons_self).noClassCell
    rw [Row.cellsOf] at hnone
    rw [Row.cellsOf, lead, List.filter_append, List.filter_append, hlead, hnone]
    rfl
  · intro row hrow
    apply (hown row (List.mem_cons_of_mem own hrow)).noClassCell
  · exact hcount

/-! ### The rows of a namespace -/

theorem role_namespaceCell {name : String} {symbols : OrderedMap String Symbol} {cell : Cell}
    (h : cell ∈ some (namespaceCell name symbols)) :
  cell.role = .namespaceName
  := by
  rw [Option.mem_some_iff] at h
  rw [← h]
  rfl

/-- A row of a namespace is a row of one of its symbols, as far as the cells of classes go. -/
theorem exists_symbol_of_mem_namespaceRows {name : String} {symbols : OrderedMap String Symbol}
    {row : Row} (h : row ∈ namespaceRows formatDoc name symbols) :
  ∃ s ∈ symbols.values, row.place = s.place ∧ s.rowCount ≠ 0
    ∧ (row.startsGroup = true ↔ row.cellsOf .className ≠ [])
  := by
  rw [namespaceRows_eq] at h
  obtain hmem | ⟨row, hmem, rfl⟩ := mem_modifyHead h
  · obtain ⟨s, hs, hrow⟩ := List.mem_flatMap.mp hmem
    have hclass := isClassRow_of_mem formatDoc hrow
    exact ⟨s, hs, hclass.place, hclass.hasRows, hclass.startsGroup_iff⟩
  · -- the cell of the namespace in front is not the cell of a class
    obtain ⟨s, hs, hrow⟩ := List.mem_flatMap.mp hmem
    have hclass := isClassRow_of_mem formatDoc hrow
    exact ⟨s, hs, hclass.place, hclass.hasRows, hclass.startsGroup_iff⟩

variable {formatDoc} in
/-- What the cells of groups and of own rows have in common, all cells of a namespace have. -/
theorem forall_cells_namespaceRows {P : Cell → Prop} {name : String}
    {symbols : OrderedMap String Symbol}
    (hnamespace : namespaceRowCount symbols ≠ 0 → P (namespaceCell name symbols))
    (hclass : ∀ s : Symbol, s.rowCount ≠ 0 → P (classCell s))
    (hown : ∀ s, ∀ row ∈ ownRows formatDoc s, ∀ cell ∈ row.cells, P cell) :
  ∀ row ∈ namespaceRows formatDoc name symbols, ∀ cell ∈ row.cells, P cell
  := by
  have hclassRows (s : Symbol) : ∀ row ∈ classRows formatDoc s, ∀ cell ∈ row.cells, P cell := by
    intro row hrow
    rw [classRows] at hrow
    split at hrow
    case isTrue => simp at hrow
    case isFalse hrows =>
      obtain hmem | ⟨own, hmem, rfl⟩ := mem_modifyHead hrow
      · exact hown s row hmem
      · rw [lead]
        simpa using ⟨hclass s hrows, hown s own hmem⟩
  intro row hrow
  have hcount : namespaceRowCount symbols ≠ 0 := by
    rw [← length_namespaceRows formatDoc name]
    exact Nat.ne_of_gt (List.length_pos_of_mem hrow)
  rw [namespaceRows_eq] at hrow
  obtain hmem | ⟨first, hmem, rfl⟩ := mem_modifyHead hrow
  · obtain ⟨s, -, hmem⟩ := List.mem_flatMap.mp hmem
    exact hclassRows s row hmem
  · obtain ⟨s, -, hmem⟩ := List.mem_flatMap.mp hmem
    rw [lead]
    simpa using ⟨hnamespace hcount, hclassRows s first hmem⟩

section

variable {catalog : Catalog} (hkeyed : catalog.WellKeyed)

include hkeyed

theorem namespaceName_of_mem {e : String × OrderedMap String Symbol} (he : e ∈ catalog.entries)
    {row : Row} (hrow : row ∈ namespaceRows formatDoc e.1 e.2) :
  row.namespaceName = e.1
  := by
  obtain ⟨s, hs, hplace, -⟩ := exists_symbol_of_mem_namespaceRows formatDoc hrow
  obtain ⟨e', he', rfl⟩ := List.mem_map.mp hs
  rw [(hkeyed.place_eq he he').2] at hplace
  apply congrArg Prod.fst hplace

/-- In the table of a catalog every namespace that has a row is headed by its cell. -/
theorem heads_namespace {row : Row} (hrow : row ∈ build catalog formatDoc) :
  ∃ cell, Heads (build catalog formatDoc) .namespaceName (·.namespaceName) row.namespaceName cell
    ∧ cell.subject = .namespaceName row.namespaceName
  := by
  obtain ⟨e, he, hrow⟩ := List.mem_flatMap.mp hrow
  rw [namespaceName_of_mem formatDoc hkeyed he hrow]
  obtain ⟨before, after, hsplit, hother⟩ := flatMap_split catalog.nodup
    (fun e he row hrow => namespaceName_of_mem formatDoc hkeyed he hrow) he
  have hblock row (h : row ∈ namespaceRows formatDoc e.1 e.2) :=
    namespaceName_of_mem formatDoc hkeyed he h
  have hnone row (h : row ∈ e.2.values.flatMap (classRows formatDoc)) :
      row.cellsOf .namespaceName = [] := by
    obtain ⟨s, -, hrow⟩ := List.mem_flatMap.mp h
    apply (isClassRow_of_mem formatDoc hrow).noNamespaceCell
  use namespaceCell e.1 e.2
  constructor
  · rw [build, hsplit]
    simp only [namespaceRows_eq] at hrow hblock ⊢
    cases hrows : e.2.values.flatMap (classRows formatDoc) with
    | nil => simp [hrows] at hrow
    | cons first rest =>
      rw [hrows, List.modifyHead_cons] at hblock
      rw [hrows] at hnone
      rw [List.modifyHead_cons]
      apply heads_of_block hblock hother
      · have hfirst := hnone first List.mem_cons_self
        rw [Row.cellsOf] at hfirst
        rw [Row.cellsOf, lead, List.filter_append, List.filter_append, hfirst]
        rfl
      · intro row hrow
        apply hnone row (List.mem_cons_of_mem first hrow)
      · have hlength := length_flatMap_classRows formatDoc e.2.values
        rw [hrows, List.length_cons] at hlength
        exact hlength.symm
  · rfl

/-- The rows of a symbol among those of its namespace; the cell of the namespace may stand on the
first of them. -/
theorem exists_class_split {e : String × OrderedMap String Symbol} (he : e ∈ catalog.entries)
    {e' : String × Symbol} (he' : e' ∈ e.2.entries) (hrows : e'.2.rowCount ≠ 0) :
  ∃ waiting before after, (∀ cell ∈ waiting, cell.role = .namespaceName)
    ∧ namespaceRows formatDoc e.1 e.2
      = before ++ (classRows formatDoc e'.2).modifyHead (lead waiting none) ++ after
    ∧ ∀ row ∈ before ++ after, row.className ≠ e'.1
  := by
  have hkey e' (he' : e' ∈ e.2.entries) row (hrow : row ∈ classRows formatDoc e'.2) :
      row.className = e'.1 := by
    have hplace := (isClassRow_of_mem formatDoc hrow).place
    rw [(hkeyed.place_eq he he').2] at hplace
    apply congrArg Prod.snd hplace
  have hclass : classRows formatDoc e'.2 ≠ [] := by
    apply List.ne_nil_of_length_pos
    rw [length_classRows]
    omega
  obtain ⟨before, after, hsplit, hother⟩ := flatMap_split e.2.nodup hkey he'
  rw [namespaceRows_eq, OrderedMap.values, List.flatMap_map, hsplit]
  by_cases hbefore : before = []
  · subst hbefore
    use some (namespaceCell e.1 e.2), [], after, fun cell => role_namespaceCell
    rw [List.nil_append, modifyHead_append _ hclass, List.nil_append]
    exact ⟨rfl, hother⟩
  · use none, before.modifyHead (lead (some (namespaceCell e.1 e.2)) none), after
    and_intros
    · simp
    · rw [List.append_assoc, modifyHead_append _ hbefore, ← List.append_assoc]
      congr 2
      symm
      apply modifyHead_lead_none
    · intro row hrow
      obtain hrow | hrow := List.mem_append.mp hrow
      · obtain hmem | ⟨row, hmem, rfl⟩ := mem_modifyHead hrow
        · apply hother row (List.mem_append_left _ hmem)
        · apply hother row (List.mem_append_left _ hmem)
      · apply hother row (List.mem_append_right _ hrow)

/-- In the table of a catalog every class that has a row is headed by its cell, which spans as many
rows as are counted for the symbol. -/
theorem heads_class {row : Row} (hrow : row ∈ build catalog formatDoc) :
  ∃ s cell, catalog.find? row.namespaceName row.className = some s
    ∧ Heads (build catalog formatDoc) .className (·.place) row.place cell
    ∧ cell.rowSpan = s.rowCount ∧ cell.subject = .symbol s
  := by
  obtain ⟨e, he, hrow⟩ := List.mem_flatMap.mp hrow
  obtain ⟨s, hs, hplace, hrows, -⟩ := exists_symbol_of_mem_namespaceRows formatDoc hrow
  obtain ⟨e', he', rfl⟩ := List.mem_map.mp hs
  obtain ⟨hfind, hplace'⟩ := hkeyed.place_eq he he'
  rw [hplace'] at hplace
  have hname : row.namespaceName = e.1 := congrArg Prod.fst hplace
  have hshort : row.className = e'.1 := congrArg Prod.snd hplace
  obtain ⟨before, after, hsplit, hother⟩ := flatMap_split catalog.nodup
    (fun e he row hrow => namespaceName_of_mem formatDoc hkeyed he hrow) he
  obtain ⟨waiting, before', after', hwaiting, hsplit', hother'⟩ :=
    exists_class_split formatDoc hkeyed he he' hrows
  obtain ⟨first, rest, hblock, hfirst, hrest, hspan⟩ :=
    exists_headed_rows formatDoc hrows waiting hwaiting
  use e'.2, classCell e'.2
  rw [hname, hshort, hplace]
  and_intros
  · exact hfind
  · have hbuild : build catalog formatDoc
        = (before ++ before') ++ first :: rest ++ (after' ++ after) := by
      rw [build, hsplit, hsplit', hblock]
      simp only [List.append_assoc]
    rw [hbuild]
    apply heads_of_block _ _ hfirst hrest hspan
    · intro row hrow
      rw [← hblock] at hrow
      obtain hmem | ⟨row, hmem, rfl⟩ := mem_modifyHead hrow
      · rw [(isClassRow_of_mem formatDoc hmem).place, hplace']
      · rw [← hplace', ← (isClassRow_of_mem formatDoc hmem).place]
        rfl
    · intro row hrow heq
      have hrow : row ∈ before ++ after ∨ row ∈ before' ++ after' := by
        simp only [List.mem_append] at hrow ⊢
        tauto
      obtain hrow | hrow := hrow
      · apply hother row hrow (congrArg Prod.fst heq)
      · apply hother' row hrow (congrArg Prod.snd heq)
  · rfl
  · rfl

end

/-- The rows that start a group are those with the cell of a class. -/
theorem startsGroup_iff {catalog : Catalog} {row : Row} (hrow : row ∈ build catalog formatDoc) :
  row.startsGroup = true ↔ ∃ cell ∈ row.cells, cell.role = .className
  := by
  obtain ⟨e, -, hrow⟩ := List.mem_flatMap.mp hrow
  obtain ⟨s, -, -, -, hiff⟩ := exists_symbol_of_mem_namespaceRows formatDoc hrow
  rw [hiff, Row.cellsOf, ne_eq, List.filter_eq_nil_iff]
  simp

/-- After any run of batches the spans of the table agree with its rows and with the catalog. -/
theorem build_spansConserved (batches : List (List Symbol)) :
  SpansConserved (Catalog.ofRun batches) (build (Catalog.ofRun batches) formatDoc)
  where
  namespaces _ hrow := heads_namespace formatDoc (Catalog.wellKeyed_ofRun batches) hrow
  classes _ hrow := heads_class formatDoc (Catalog.wellKeyed_ofRun batches) hrow
  groups _ hrow := startsGroup_iff formatDoc hrow
  total := length_build formatDoc _

end Table

end DocTable
