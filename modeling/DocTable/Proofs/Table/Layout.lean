import DocTable.Proofs.OrderedMap
import DocTable.Table.Layout
import Mathlib.Algebra.GroupWithZero.Nat

/-!
# The rows of a layout

The layout hands the cell of a namespace from symbol to symbol until a row takes it.
`namespaceRows_eq` says what comes of it: the rows of a symbol are its own rows with the cell of its
class on the first (`classRows`), and the first row of a namespace, of whatever symbol, has the cell
of the namespace.
-/

namespace DocTable

namespace Table

/-! ### Counting rows -/

/-- The members of a symbol are those of its three sections. -/
theorem length_members (s : Symbol) :
  s.members.length = s.constants.size + s.properties.size + s.methods.size
  := by
  simp only [Symbol.members, List.length_append, OrderedMap.values, List.length_map,
    OrderedMap.size]

/-- A namespace has the rows of its symbols. -/
theorem namespaceRowCount_eq_sum (symbols : OrderedMap String Symbol) :
  namespaceRowCount symbols = (symbols.values.map Symbol.rowCount).sum
  := rfl

/-! ### Placing the cells that wait -/

/-- Without cells that wait a row stays as it is. -/
theorem lead_none (row : Row) :
  lead none none row = row
  := rfl

/-- The same holds for the first of some rows. -/
theorem modifyHead_lead_none (rows : List Row) :
  rows.modifyHead (lead none none) = rows
  := by
  cases rows with
  | nil => rfl
  | cons row rows => rfl

/-- A row may take the cell of its class first, and then that of its namespace in front of it. -/
theorem lead_lead (waiting classCell : Option Cell) (row : Row) :
  lead waiting none (lead none classCell row) = lead waiting classCell row
  := by
  simp only [lead, Option.toList_none, List.append_nil, List.nil_append, List.append_assoc,
    Option.isSome_none, Bool.false_or]

/-- Without cells that wait, rows stay as they are, and no cell is left. -/
theorem place_none (rows : List Row) :
  place none none rows = (rows, none)
  := by
  induction rows with
  | nil => rfl
  | cons row rows ih => rw [place, ih, lead_none]

/-- The first row takes all cells that wait. -/
theorem place_of_ne_nil (waiting classCell : Option Cell) {rows : List Row} (h : rows ≠ []) :
  place waiting classCell rows = (rows.modifyHead (lead waiting classCell), none)
  := by
  cases rows with
  | nil => contradiction
  | cons row rows => rw [place, place_none, List.modifyHead_cons]

/-- The first of some rows is the first of these and others. -/
theorem modifyHead_append {α : Type} (f : α → α) {xs : List α} (h : xs ≠ []) (ys : List α) :
  (xs ++ ys).modifyHead f = xs.modifyHead f ++ ys
  := by
  cases xs with
  | nil => contradiction
  | cons x xs => rfl

/-! ### The rows of a symbol -/

variable [Escaping] (formatDoc : DocBlock → String)

/-- The rows of a symbol with the cell of its class on the first of them. -/
def classRows (s : Symbol) : List Row :=
  if s.rowCount = 0 then []
  else (ownRows formatDoc s).modifyHead (lead none (some (classCell s)))

/-- A symbol has a row for its summary, if it is documented, and one for each member. -/
theorem mem_ownRows_iff {s : Symbol} {row : Row} :
  row ∈ ownRows formatDoc s
    ↔ (s.docBlock.isEmpty = false ∧ row = summaryRow formatDoc s)
      ∨ ∃ m ∈ s.members, memberRow formatDoc s m = row
  := by
  rw [ownRows, List.mem_append, List.mem_map]
  cases s.docBlock.isEmpty <;> simp

/-- A symbol that has rows at all has as many own rows as are counted for it. -/
theorem length_ownRows {s : Symbol} (h : s.rowCount ≠ 0) :
  (ownRows formatDoc s).length = s.rowCount
  := by
  rw [Symbol.rowCount] at h ⊢
  split at h
  case isFalse => contradiction
  case isTrue hmembers =>
    rw [if_pos hmembers, ownRows, List.length_append, List.length_map, length_members]
    cases s.docBlock.isEmpty with
    | true => simp
    | false =>
      simp only [Bool.false_eq_true, if_false, List.length_singleton]
      omega

/-- A symbol that counts has rows. -/
theorem ownRows_ne_nil {s : Symbol} (h : s.rowCount ≠ 0) :
  ownRows formatDoc s ≠ []
  := by
  intro hnil
  apply h
  rw [← length_ownRows formatDoc h, hnil, List.length_nil]

/-- A symbol that counts has a first row, and the others are one less than it counts. -/
theorem exists_ownRows_cons {s : Symbol} (h : s.rowCount ≠ 0) :
  ∃ own rest, ownRows formatDoc s = own :: rest ∧ s.rowCount = rest.length + 1
  := by
  obtain ⟨own, rest, hrows⟩ := List.exists_cons_of_ne_nil (ownRows_ne_nil formatDoc h)
  use own, rest, hrows
  rw [← length_ownRows formatDoc h, hrows, List.length_cons]

/-- A symbol has as many rows as it counts. -/
theorem length_classRows (s : Symbol) :
  (classRows formatDoc s).length = s.rowCount
  := by
  rw [classRows]
  split
  case isTrue h => rw [h, List.length_nil]
  case isFalse h => rw [List.length_modifyHead, length_ownRows formatDoc h]

/-! ### The rows of a namespace -/

/-- A symbol with rows takes all cells that wait, so that nothing waits for the next symbol. -/
theorem symbolRows_cons (waiting : Option Cell) {s : Symbol} (h : s.rowCount ≠ 0)
    (symbols : List Symbol) :
  symbolRows formatDoc waiting (s :: symbols)
    = (ownRows formatDoc s).modifyHead (lead waiting (some (classCell s)))
      ++ symbolRows formatDoc none symbols
  := by
  rw [symbolRows, if_neg h, place_of_ne_nil _ _ (ownRows_ne_nil formatDoc h)]

/-- Without a cell that waits, the rows of symbols are those of each symbol by itself. -/
theorem symbolRows_none (symbols : List Symbol) :
  symbolRows formatDoc none symbols = symbols.flatMap (classRows formatDoc)
  := by
  induction symbols with
  | nil => rfl
  | cons s symbols ih =>
    rw [List.flatMap_cons, classRows]
    split
    case isTrue h => rw [symbolRows, if_pos h, ih, List.nil_append]
    case isFalse h => rw [symbolRows_cons formatDoc none h, ih]

/-- The cell that waits goes to the first row, however many symbols without rows come before. -/
theorem symbolRows_eq (waiting : Option Cell) (symbols : List Symbol) :
  symbolRows formatDoc waiting symbols
    = (symbols.flatMap (classRows formatDoc)).modifyHead (lead waiting none)
  := by
  induction symbols with
  | nil => rfl
  | cons s symbols ih =>
    rw [List.flatMap_cons, classRows]
    split
    case isTrue h => rw [symbolRows, if_pos h, ih, List.nil_append]
    case isFalse h =>
      have hrows : (ownRows formatDoc s).modifyHead (lead none (some (classCell s))) ≠ [] := by
        simpa using ownRows_ne_nil formatDoc h
      rw [symbolRows_cons formatDoc waiting h, symbolRows_none, modifyHead_append _ hrows,
        List.modifyHead_modifyHead]
      congr 2
      funext row
      symm
      apply lead_lead

/-- The rows of a namespace are those of its symbols, the first with the cell of the namespace. -/
theorem namespaceRows_eq (name : String) (symbols : OrderedMap String Symbol) :
  namespaceRows formatDoc name symbols
    = (symbols.values.flatMap (classRows formatDoc)).modifyHead
        (lead (some (namespaceCell name symbols)) none)
  := symbolRows_eq formatDoc _ symbols.values

/-- Symbols have as many rows as they count together. -/
theorem length_flatMap_classRows (symbols : List Symbol) :
  (symbols.flatMap (classRows formatDoc)).length = (symbols.map Symbol.rowCount).sum
  := by
  rw [List.length_flatMap]
  congr 2
  funext s
  apply length_classRows

/-- A namespace has as many rows as it counts, which is what its cell spans. -/
theorem length_namespaceRows (name : String) (symbols : OrderedMap String Symbol) :
  (namespaceRows formatDoc name symbols).length = namespaceRowCount symbols
  := by
  rw [namespaceRows_eq, List.length_modifyHead, length_flatMap_classRows,
    namespaceRowCount_eq_sum]

/-- The table has as many rows as are counted for all symbols together. -/
theorem length_build (snapshot : Snapshot) :
  (build snapshot formatDoc).length
    = ((snapshot.values.flatMap OrderedMap.values).map Symbol.rowCount).sum
  := by
  rw [build, List.length_flatMap, OrderedMap.values, List.flatMap_map, List.map_flatMap,
    List.flatMap_def, List.sum_flatten, List.map_map]
  congr 2
  funext e
  obtain ⟨name, symbols⟩ := e
  simp only [Function.comp_apply, length_namespaceRows, namespaceRowCount_eq_sum]

end Table

end DocTable
