import DocTable.Markup.Entities
import DocTable.Proofs.Table.Spans
import Mathlib.Data.List.Forall2

/-!
# What the rows are about

The members determine the table.  `Snapshot.topics` lists, in order, what there is to show: for
every symbol with a member, the symbol itself if its block has something to show, and then each of
its members.  The rows of the table show these topics one by one.  A symbol without members has no
part in the table, not even in the spans: the table of a snapshot is that of the snapshot without
such symbols and without the namespaces that are left empty (`build_topics`).
-/

namespace DocTable

/-- The block has a summary or a kind of tag, though perhaps no tag of that kind. -/
def DocBlock.HasContent (block : DocBlock) : Prop :=
  block.summary ≠ "" ∨ block.tags.keys ≠ []

instance (block : DocBlock) : Decidable block.HasContent :=
  inferInstanceAs (Decidable (_ ∨ _))

theorem DocBlock.isEmpty_iff {block : DocBlock} :
  block.isEmpty = true ↔ ¬block.HasContent
  := by
  simp only [isEmpty, HasContent, OrderedMap.isEmpty, OrderedMap.keys, Bool.and_eq_true,
    decide_eq_true_eq, List.isEmpty_iff, ne_eq, List.map_eq_nil_iff, not_or, not_not]

/-- What a row is about. -/
inductive Topic where
  /-- The symbol itself. -/
  | summary (s : Symbol)
  /-- A member of the symbol. -/
  | member (s : Symbol) (m : Member)

/-- What there is to show of a symbol. -/
def Symbol.topics (s : Symbol) : List Topic :=
  if s.members = [] then []
  else (if s.docBlock.HasContent then [.summary s] else []) ++ s.members.map (.member s)

/-- What there is to show of all symbols. -/
def Snapshot.topics (snapshot : Snapshot) : List Topic :=
  snapshot.values.flatMap fun symbols => symbols.values.flatMap Symbol.topics

/-- The symbols that have members, and the namespaces that have such symbols. -/
def Snapshot.pruned (snapshot : Snapshot) : Snapshot :=
  (snapshot.map (OrderedMap.filter (·.members ≠ []))).filter (·.values ≠ [])

/-- The cells of a row other than those of the groups that begin there. -/
def Row.ownCells (row : Row) : List Cell :=
  row.cells.filter fun cell => cell.role ≠ .namespaceName ∧ cell.role ≠ .className

namespace Table

/-- The row of a symbol itself has one cell of its own, with the documentation. -/
structure ShowsSummary (formatDoc : DocBlock → String) (s : Symbol) (row : Row) : Prop where
  kind : row.kind = .classSummary
  place : row.place = s.place
  docBlock : row.docBlock = s.docBlock
  cells : ∃ docs, row.ownCells = [docs] ∧ docs.role = .classDocs ∧ docs.subject = .symbol s
    ∧ docs.isEmpty = false ∧ docs.content = formatDoc s.docBlock

/-- The row of a member has two cells of its own, one with the name and one with the
documentation. -/
structure ShowsMember [Escaping] (formatDoc : DocBlock → String) (s : Symbol) (m : Member)
    (row : Row) :
    Prop where
  kind : row.kind = m.kind.rowKind
  place : row.place = s.place
  docBlock : row.docBlock = m.docBlock
  cells : ∃ name docs, row.ownCells = [name, docs]
    ∧ name.role = m.kind.role ∧ name.subject = .member m ∧ name.content = escapeText m.name
    ∧ docs.role = .docs ∧ docs.subject = .member m
    ∧ (docs.isEmpty = true ↔ ¬m.docBlock.HasContent)
    ∧ docs.content = if m.docBlock.HasContent then formatDoc m.docBlock else ""

/-- The row is about a topic. -/
def Shows [Escaping] (formatDoc : DocBlock → String) : Topic → Row → Prop
  | .summary s => ShowsSummary formatDoc s
  | .member s m => ShowsMember formatDoc s m

/-! ### Symbols without rows -/

theorem members_eq_nil_iff {s : Symbol} :
  s.members = [] ↔ s.hasMembers = false
  := by
  simp only [Symbol.members, Symbol.hasMembers, OrderedMap.values, OrderedMap.isEmpty,
    List.append_eq_nil_iff, List.map_eq_nil_iff, Bool.not_eq_false', Bool.and_eq_true,
    List.isEmpty_iff]

/-- The symbols without rows are those without members, be they documented or not. -/
theorem rowCount_eq_zero_iff {s : Symbol} :
  s.rowCount = 0 ↔ s.members = []
  := by
  rw [Symbol.rowCount, members_eq_nil_iff]
  split
  case isTrue h =>
    have hlength : s.members.length ≠ 0 := by
      rw [ne_eq, List.length_eq_zero_iff, members_eq_nil_iff, h]
      decide
    rw [length_members] at hlength
    rw [h]
    simp only [Bool.true_eq_false, iff_false]
    omega
  case isFalse h => simpa using h

/-- What gives nothing can be dropped beforehand. -/
theorem flatMap_filter_of_eq_nil {α β : Type} {keep : α → Bool} {f : α → List β} {as : List α}
    (h : ∀ a ∈ as, keep a = false → f a = []) :
  (as.filter keep).flatMap f = as.flatMap f
  := by
  induction as with
  | nil => rfl
  | cons a as ih =>
    have ih := ih fun a ha => h a (List.mem_cons_of_mem _ ha)
    rw [List.filter_cons, List.flatMap_cons]
    split
    case isTrue => rw [List.flatMap_cons, ih]
    case isFalse hkeep => rw [h a List.mem_cons_self (Bool.not_eq_true _ ▸ hkeep), ih,
      List.nil_append]

/-! ### The rows of a symbol -/

section

variable [Escaping] (formatDoc : DocBlock → String)

theorem shows_summaryRow (s : Symbol) :
  Shows formatDoc (.summary s) (summaryRow formatDoc s)
  := ⟨rfl, rfl, rfl, _, rfl, rfl, rfl, rfl, rfl⟩

theorem shows_memberRow (s : Symbol) (m : Member) :
  Shows formatDoc (.member s m) (memberRow formatDoc s m)
  := by
  constructor
  · rfl
  · rfl
  · rfl
  · have hown : (memberRow formatDoc s m).ownCells = (memberRow formatDoc s m).cells := by
      cases hkind : m.kind <;> simp [Row.ownCells, memberRow, MemberKind.role, hkind]
    refine ⟨_, _, hown, rfl, rfl, rfl, rfl, rfl, DocBlock.isEmpty_iff, ?_⟩
    show (if m.docBlock.isEmpty then "" else formatDoc m.docBlock) = _
    by_cases h : m.docBlock.HasContent
    · rw [if_pos h, if_neg (mt DocBlock.isEmpty_iff.mp (not_not.mpr h))]
    · rw [if_neg h, if_pos (DocBlock.isEmpty_iff.mpr h)]

/-- The cells of groups in front of a row change nothing of what it shows. -/
theorem Shows.lead {topic : Topic} {row : Row} (h : Shows formatDoc topic row)
    {waiting classCell : Option Cell} (hwaiting : ∀ cell ∈ waiting, cell.role = .namespaceName)
    (hclass : ∀ cell ∈ classCell, cell.role = .className) :
  Shows formatDoc topic (Table.lead waiting classCell row)
  := by
  have hcells : (Table.lead waiting classCell row).ownCells = row.ownCells := by
    rw [Row.ownCells, Row.ownCells, Table.lead, List.filter_append, List.append_left_eq_self,
      List.filter_eq_nil_iff]
    intro cell hcell
    rw [List.mem_append, Option.mem_toList, Option.mem_toList] at hcell
    obtain hcell | hcell := hcell
    · simp [hwaiting cell hcell]
    · simp [hclass cell hcell]
  cases topic with
  | summary s => exact ⟨h.kind, h.place, h.docBlock, hcells ▸ h.cells⟩
  | member s m => exact ⟨h.kind, h.place, h.docBlock, hcells ▸ h.cells⟩

/-! ### The rows in order -/

/-- The rows show the topics one by one. -/
abbrev ShowsAll (topics : List Topic) (rows : List Row) : Prop :=
  List.Forall₂ (Shows formatDoc) topics rows

variable {formatDoc}

theorem ShowsAll.append {topics topics' : List Topic} {rows rows' : List Row}
    (h : ShowsAll formatDoc topics rows) (h' : ShowsAll formatDoc topics' rows') :
  ShowsAll formatDoc (topics ++ topics') (rows ++ rows')
  := List.rel_append h h'

theorem ShowsAll.flatMap {α : Type} {topics : α → List Topic} {rows : α → List Row}
    (h : ∀ a, ShowsAll formatDoc (topics a) (rows a)) (as : List α) :
  ShowsAll formatDoc (as.flatMap topics) (as.flatMap rows)
  := by
  induction as with
  | nil => exact .nil
  | cons a as ih =>
    rw [List.flatMap_cons, List.flatMap_cons]
    apply (h a).append ih

theorem ShowsAll.modifyHead_lead {topics : List Topic} {rows : List Row}
    (h : ShowsAll formatDoc topics rows) {waiting classCell : Option Cell}
    (hwaiting : ∀ cell ∈ waiting, cell.role = .namespaceName)
    (hclass : ∀ cell ∈ classCell, cell.role = .className) :
  ShowsAll formatDoc topics (rows.modifyHead (lead waiting classCell))
  := by
  cases h with
  | nil => exact .nil
  | cons hrow hrows => exact .cons (hrow.lead formatDoc hwaiting hclass) hrows

variable (formatDoc)

theorem showsAll_classRows (s : Symbol) :
  ShowsAll formatDoc s.topics (classRows formatDoc s)
  := by
  rw [Symbol.topics, classRows]
  by_cases hmembers : s.members = []
  · rw [if_pos hmembers, if_pos (rowCount_eq_zero_iff.mpr hmembers)]
    exact .nil
  · rw [if_neg hmembers, if_neg (mt rowCount_eq_zero_iff.mp hmembers), ownRows]
    apply ShowsAll.modifyHead_lead
    · apply ShowsAll.append
      · by_cases hcontent : s.docBlock.HasContent
        · rw [if_pos hcontent, if_neg (mt DocBlock.isEmpty_iff.mp (not_not.mpr hcontent))]
          exact .cons (shows_summaryRow formatDoc s) .nil
        · rw [if_neg hcontent, if_pos (DocBlock.isEmpty_iff.mpr hcontent)]
          exact .nil
      · rw [ShowsAll, List.forall₂_map_left_iff, List.forall₂_map_right_iff, List.forall₂_same]
        intro m _
        apply shows_memberRow
    · simp
    · simp [classCell]

/-- The rows of the table show what there is to show, in order. -/
theorem showsAll_build (snapshot : Snapshot) :
  ShowsAll formatDoc snapshot.topics (build snapshot formatDoc)
  := by
  rw [Snapshot.topics, build, OrderedMap.values, List.flatMap_map]
  apply ShowsAll.flatMap
  rintro ⟨name, symbols⟩
  dsimp only
  rw [namespaceRows_eq]
  apply ShowsAll.modifyHead_lead
  · apply ShowsAll.flatMap (showsAll_classRows formatDoc)
  · simp [namespaceCell]
  · simp

/-! ### Symbols without members -/

theorem flatMap_classRows_filter (symbols : OrderedMap String Symbol) :
  (symbols.filter (·.members ≠ [])).values.flatMap (classRows formatDoc)
    = symbols.values.flatMap (classRows formatDoc)
  := by
  rw [OrderedMap.values_filter, flatMap_filter_of_eq_nil]
  intro s _ hs
  rw [classRows, if_pos (rowCount_eq_zero_iff.mpr (by simpa using hs))]

/-- Symbols without members count for nothing in the span of their namespace. -/
theorem namespaceRowCount_filter (symbols : OrderedMap String Symbol) :
  namespaceRowCount (symbols.filter (·.members ≠ [])) = namespaceRowCount symbols
  := by
  -- The rows are as many whatever they say.
  let formatDoc : DocBlock → String := fun _ => ""
  rw [namespaceRowCount_eq_sum, namespaceRowCount_eq_sum, ← length_flatMap_classRows formatDoc,
    ← length_flatMap_classRows formatDoc, flatMap_classRows_filter]

theorem namespaceRows_filter (name : String) (symbols : OrderedMap String Symbol) :
  namespaceRows formatDoc name (symbols.filter (·.members ≠ []))
    = namespaceRows formatDoc name symbols
  := by
  rw [namespaceRows_eq, namespaceRows_eq, namespaceCell, namespaceRowCount_filter,
    flatMap_classRows_filter, namespaceCell]

theorem build_pruned (snapshot : Snapshot) :
  build snapshot.pruned formatDoc = build snapshot formatDoc
  := by
  rw [build, Snapshot.pruned, OrderedMap.entries_filter, flatMap_filter_of_eq_nil]
  · rw [OrderedMap.map, List.flatMap_map, build]
    simp only [namespaceRows_filter]
  · rintro ⟨name, symbols⟩ _ hsymbols
    dsimp only
    rw [namespaceRows_eq, show symbols.values = [] by simpa using hsymbols]
    rfl

/-- The rows show just what there is to show, in order, and neither symbols without members nor
namespaces without other symbols make a difference to the table. -/
theorem build_topics (snapshot : Snapshot) :
  ShowsAll formatDoc snapshot.topics (build snapshot formatDoc)
    ∧ build snapshot.pruned formatDoc = build snapshot formatDoc
  := ⟨showsAll_build formatDoc snapshot, build_pruned formatDoc snapshot⟩

end

/-- A symbol with a constant, in whose block there is a kind of tag without any tag. -/
def bareKind : Symbol where
  shortName := "Cache"
  fullName := "App\\Cache"
  namespaceName := "App"
  docBlock := { tags := OrderedMap.empty.put "see" [] }
  constants := OrderedMap.empty.put "SIZE" { name := "SIZE", kind := .constant }

/-- A kind of tag is something to show even if there is no tag of it: the symbol has a row of its
own, though its block has neither a summary nor a tag. -/
theorem not_summaryRow_iff_tag :
  ¬((∃ row ∈ build (Catalog.set .empty bareKind) fun _ => "", row.kind = .classSummary)
    ↔ bareKind.docBlock.summary ≠ "" ∨ bareKind.docBlock.allTags ≠ [])
  := by decide

end Table

end DocTable
