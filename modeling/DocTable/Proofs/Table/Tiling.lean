import DocTable.Proofs.Table.Layout
import Mathlib.Data.List.Nodup
import Mathlib.Data.List.ProdSigma
import Mathlib.Data.Nat.Find

/-!
# Tiling

The cells of a table are placed on a grid by the rule of HTML: those of a row go from left to right
into the columns that are free, and a cell covers as many rows and columns as it spans.  A table
tiles its grid when this covers every slot of it once and nothing outside.

Each column is covered from the top down to some row, the `Skyline`.  While a table is laid out its
skyline is a stair: the columns of namespaces and of classes are ahead of the rows, each by what is
left of the cell above, and the other two are level (`stairs`).
-/

namespace DocTable

/-- A slot of a grid: its row and its column. -/
abbrev Slot := Nat × Nat

/-- The slots that a cell covers from its upper left slot on. -/
def Cell.slots (cell : Cell) (row column : Nat) : List Slot :=
  List.range' row cell.rowSpan ×ˢ List.range' column cell.colSpan

namespace Table

theorem exists_column_bound (covered : List Slot) :
  ∃ bound, ∀ slot ∈ covered, slot.2 < bound
  := by
  induction covered with
  | nil => exact ⟨0, by simp⟩
  | cons slot covered ih =>
    obtain ⟨bound, hbound⟩ := ih
    use max bound (slot.2 + 1)
    intro slot' h
    obtain rfl | h := List.mem_cons.mp h
    · omega
    · have hlt := hbound slot' h
      omega

theorem exists_free (covered : List Slot) (row column : Nat) :
  ∃ c, column ≤ c ∧ (row, c) ∉ covered
  := by
  obtain ⟨bound, hbound⟩ := exists_column_bound covered
  use max column bound
  constructor
  · omega
  · intro h
    have hlt : max column bound < bound := hbound _ h
    omega

/-- The first free column of a row from a column on. -/
def freeColumn (covered : List Slot) (row column : Nat) : Nat :=
  Nat.find (exists_free covered row column)

/-- The slots that are covered after the cells of a row are placed, from a column on. -/
def placeCells (row column : Nat) (covered : List Slot) : List Cell → List Slot
  | [] => covered
  | cell :: cells =>
    let start := freeColumn covered row column
    placeCells row (start + cell.colSpan) (covered ++ cell.slots row start) cells

/-- The slots that are covered after some rows are placed, the first of them in row `row`. -/
def placeRows (row : Nat) (covered : List Slot) : List Row → List Slot
  | [] => covered
  | r :: rows => placeRows (row + 1) (placeCells row 0 covered r.cells) rows

/-- The slots that the cells of a table cover, each as often as it is covered. -/
def coveredSlots (t : Table) : List Slot :=
  placeRows 0 [] t

/-- The cells cover every slot of the rows and columns of the table once, and no other slot. -/
def Tiles (t : Table) (columns : Nat) : Prop :=
  ∀ slot : Slot,
    (coveredSlots t).count slot = if slot.1 < t.length ∧ slot.2 < columns then 1 else 0

/-! ### Skylines -/

/-- Each column `c` is covered once above the row `height c`, and not at all from there on. -/
def Skyline (covered : List Slot) (height : Nat → Nat) : Prop :=
  ∀ row column, covered.count (row, column) = if row < height column then 1 else 0

variable {covered : List Slot} {height : Nat → Nat} {row column : Nat}

theorem skyline_nil :
  Skyline [] fun _ => 0
  := by
  intro row column
  rw [List.count_nil, if_neg (Nat.not_lt_zero row)]

theorem Skyline.mem_iff (h : Skyline covered height) :
  (row, column) ∈ covered ↔ row < height column
  := by
  rw [← List.count_pos_iff, h]
  split <;> simp_all

/-- The first free column is the first over which the skyline does not hang. -/
theorem Skyline.freeColumn_eq (h : Skyline covered height) {c : Nat} (hle : column ≤ c)
    (hfree : height c ≤ row) (htaken : ∀ c', column ≤ c' → c' < c → row < height c') :
  freeColumn covered row column = c
  := by
  rw [freeColumn, Nat.find_eq_iff]
  constructor
  · rw [h.mem_iff]
    omega
  · rintro c' hlt ⟨hcolumn, hfree'⟩
    rw [h.mem_iff] at hfree'
    apply hfree' (htaken c' hcolumn hlt)

theorem count_slots (cell : Cell) (row column : Nat) (slot : Slot) :
  (cell.slots row column).count slot
    = if (row ≤ slot.1 ∧ slot.1 < row + cell.rowSpan)
        ∧ (column ≤ slot.2 ∧ slot.2 < column + cell.colSpan) then 1 else 0
  := by
  rw [Cell.slots, ((List.nodup_range' 1).product (List.nodup_range' 1)).count]
  obtain ⟨row', column'⟩ := slot
  simp only [List.mem_product, List.mem_range'_1]

/-- The skyline after a cell is placed. -/
def raised (height : Nat → Nat) (row column : Nat) (cell : Cell) : Nat → Nat :=
  fun c => if column ≤ c ∧ c < column + cell.colSpan then row + cell.rowSpan else height c

/-- A cell that is placed where the skyline is level with its row lifts the columns it spans. -/
theorem Skyline.raise (h : Skyline covered height) (cell : Cell)
    (hlevel : ∀ c, column ≤ c → c < column + cell.colSpan → height c = row) :
  Skyline (covered ++ cell.slots row column) (raised height row column cell)
  := by
  intro row' column'
  rw [List.count_append, h, count_slots, raised]
  by_cases hcolumn : column ≤ column' ∧ column' < column + cell.colSpan
  · simp only [hlevel column' hcolumn.1 hcolumn.2, hcolumn, and_true, and_self, if_true]
    split <;> split <;> split <;> omega
  · simp only [hcolumn, and_false, if_false, Nat.add_zero]

/-- The next cell of a row goes to the first column over which the skyline does not hang. -/
theorem Skyline.placeNext (h : Skyline covered height) (row : Nat) (cell : Cell) {start : Nat}
    (hle : column ≤ start) (htaken : ∀ c, column ≤ c → c < start → row < height c)
    (hspan : 0 < cell.colSpan)
    (hlevel : ∀ c, start ≤ c → c < start + cell.colSpan → height c = row) (cells : List Cell) :
  ∃ covered', placeCells row column covered (cell :: cells)
      = placeCells row (start + cell.colSpan) covered' cells
    ∧ Skyline covered' (raised height row start cell)
  := by
  have hfree : height start ≤ row := by
    apply Nat.le_of_eq
    apply hlevel
    · omega
    · omega
  use covered ++ cell.slots row start
  constructor
  · rw [placeCells, h.freeColumn_eq hle hfree htaken]
  · apply h.raise cell hlevel

/-! ### Rows -/

/-- The cells of a row that fill its columns of members and of documentation. -/
def IsBody (cells : List Cell) : Prop :=
  (∃ docs, cells = [docs] ∧ docs.rowSpan = 1 ∧ docs.colSpan = 2)
    ∨ ∃ member docs, cells = [member, docs] ∧ member.rowSpan = 1 ∧ member.colSpan = 1
      ∧ docs.rowSpan = 1 ∧ docs.colSpan = 1

theorem isBody_of_mem [Escaping] {formatDoc : DocBlock → String} {s : Symbol} {row : Row}
    (h : row ∈ ownRows formatDoc s) :
  IsBody row.cells
  := by
  obtain ⟨-, rfl⟩ | ⟨m, -, rfl⟩ := (mem_ownRows_iff formatDoc).mp h
  · left
    exact ⟨_, rfl, rfl, rfl⟩
  · right
    exact ⟨_, _, rfl, rfl, rfl, rfl, rfl⟩

/-- The body of a row is placed behind the columns of namespaces and of classes, if these are
taken. -/
theorem Skyline.placeBody (h : Skyline covered height) (row : Nat) {cells : List Cell}
    (hbody : IsBody cells) (hcolumn : column ≤ 2)
    (htaken : ∀ c, column ≤ c → c < 2 → row < height c) (hmember : height 2 = row)
    (hdocs : height 3 = row) :
  Skyline (placeCells row column covered cells) fun c =>
    if 2 ≤ c ∧ c < 4 then row + 1 else height c
  := by
  obtain ⟨docs, rfl, hrows, hcolumns⟩ | ⟨member, docs, rfl, hrows, hcolumns, hrows', hcolumns'⟩ :=
    hbody
  · have hlevel c (hle : 2 ≤ c) (hlt : c < 2 + docs.colSpan) : height c = row := by
      obtain rfl | rfl : c = 2 ∨ c = 3 := by omega
      · exact hmember
      · exact hdocs
    obtain ⟨covered₁, hplace, h₁⟩ := h.placeNext row docs hcolumn htaken (by omega) hlevel []
    have hraised : raised height row 2 docs
        = fun c => if 2 ≤ c ∧ c < 4 then row + 1 else height c := by
      funext c
      rw [raised, hrows, hcolumns]
    rw [hplace, placeCells, ← hraised]
    exact h₁
  · have hlevel₁ c (hle : 2 ≤ c) (hlt : c < 2 + member.colSpan) : height c = row := by
      obtain rfl : c = 2 := by omega
      exact hmember
    have hlevel₂ c (hle : 3 ≤ c) (hlt : c < 3 + docs.colSpan) :
        raised height row 2 member c = row := by
      obtain rfl : c = 3 := by omega
      rw [raised, if_neg (by omega), hdocs]
    have hnext : 2 + member.colSpan ≤ 3 := by omega
    obtain ⟨covered₁, hplace₁, h₁⟩ :=
      h.placeNext row member hcolumn htaken (by omega) hlevel₁ [docs]
    obtain ⟨covered₂, hplace₂, h₂⟩ :=
      h₁.placeNext row docs hnext (by intro c hle hlt; omega) (by omega) hlevel₂ []
    have hraised : raised (raised height row 2 member) row 3 docs
        = fun c => if 2 ≤ c ∧ c < 4 then row + 1 else height c := by
      funext c
      simp only [raised, hrows, hcolumns, hrows', hcolumns']
      split_ifs <;> omega
    rw [hplace₁, hplace₂, placeCells, ← hraised]
    exact h₂

/-- The skyline over `row` full rows of a table, when a cell of a namespace and a cell of a class
hang over them by some rows. -/
def stairs (row ofNamespace ofClass : Nat) : Nat → Nat :=
  fun c =>
    if c = 0 then row + ofNamespace
    else if c = 1 then row + ofClass
    else if c < 4 then row
    else 0

variable {a b : Nat} {cells : List Cell}

/-- A row without a cell in front goes under the cells that hang over it. -/
theorem skyline_bodyRow (h : Skyline covered (stairs row (a + 1) (b + 1))) (hcolumn : column ≤ 2)
    (hbody : IsBody cells) :
  Skyline (placeCells row column covered cells) (stairs (row + 1) a b)
  := by
  have htaken c (hlt : c < 2) : row < stairs row (a + 1) (b + 1) c := by
    obtain rfl | rfl : c = 0 ∨ c = 1 := by omega
    · apply Nat.lt_add_of_pos_right (Nat.succ_pos a)
    · apply Nat.lt_add_of_pos_right (Nat.succ_pos b)
  have hplaced := h.placeBody row hbody hcolumn (fun c _ hlt => htaken c hlt) rfl rfl
  have hstairs : stairs (row + 1) a b
      = fun c => if 2 ≤ c ∧ c < 4 then row + 1 else stairs row (a + 1) (b + 1) c := by
    funext c
    simp only [stairs]
    split_ifs <;> omega
  rw [hstairs]
  exact hplaced

/-- A row with the cell of a class in front goes under the cell of the namespace. -/
theorem skyline_classRow (h : Skyline covered (stairs row (a + 1) 0)) (hcolumn : column ≤ 1)
    {cell : Cell} (hrows : cell.rowSpan = b + 1) (hcolumns : cell.colSpan = 1)
    (hbody : IsBody cells) :
  Skyline (placeCells row column covered (cell :: cells)) (stairs (row + 1) a b)
  := by
  have htaken c (hlt : c < 1) : row < stairs row (a + 1) 0 c := by
    obtain rfl : c = 0 := by omega
    apply Nat.lt_add_of_pos_right (Nat.succ_pos a)
  have hlevel c (hle : 1 ≤ c) (hlt : c < 1 + cell.colSpan) : stairs row (a + 1) 0 c = row := by
    obtain rfl : c = 1 := by omega
    rfl
  obtain ⟨covered', hplace, h'⟩ :=
    h.placeNext row cell hcolumn (fun c _ hlt => htaken c hlt) (by omega) hlevel cells
  have hstairs : raised (stairs row (a + 1) 0) row 1 cell = stairs row (a + 1) (b + 1) := by
    funext c
    simp only [raised, stairs, hrows, hcolumns]
    split_ifs <;> omega
  rw [hstairs] at h'
  rw [hplace]
  apply skyline_bodyRow h' (by omega) hbody

/-- The first row of a namespace has the cell of the namespace in front. -/
theorem skyline_namespaceRow (h : Skyline covered (stairs row 0 0)) {first cell : Cell}
    (hrows : first.rowSpan = a + 1) (hcolumns : first.colSpan = 1)
    (hrows' : cell.rowSpan = b + 1) (hcolumns' : cell.colSpan = 1) (hbody : IsBody cells) :
  Skyline (placeCells row 0 covered (first :: cell :: cells)) (stairs (row + 1) a b)
  := by
  have hlevel c (_ : 0 ≤ c) (hlt : c < 0 + first.colSpan) : stairs row 0 0 c = row := by
    obtain rfl : c = 0 := by omega
    rfl
  obtain ⟨covered', hplace, h'⟩ :=
    h.placeNext row first (Nat.le_refl 0) (by omega) (by omega) hlevel (cell :: cells)
  have hstairs : raised (stairs row 0 0) row 0 first = stairs row (a + 1) 0 := by
    funext c
    simp only [raised, stairs, hrows, hcolumns]
    split_ifs <;> omega
  rw [hstairs] at h'
  rw [hplace]
  apply skyline_classRow h' (by omega) hrows' hcolumns' hbody

/-! ### Blocks of rows -/

/-- Rows that are placed from a row on change the skyline `before` into `after`. -/
def Lifts (rows : List Row) (row : Nat) (before after : Nat → Nat) : Prop :=
  ∀ covered, Skyline covered before → Skyline (placeRows row covered rows) after

theorem placeRows_append (row : Nat) (covered : List Slot) (xs ys : List Row) :
  placeRows row covered (xs ++ ys) = placeRows (row + xs.length) (placeRows row covered xs) ys
  := by
  induction xs generalizing row covered with
  | nil => rfl
  | cons x xs ih =>
    rw [List.cons_append, placeRows, placeRows, ih, List.length_cons, Nat.add_right_comm,
      Nat.add_assoc]

theorem lifts_nil (height : Nat → Nat) :
  Lifts [] row height height
  := fun _ h => h

theorem Lifts.append {xs ys : List Row} {first middle last : Nat → Nat}
    (hxs : Lifts xs row first middle) (hys : Lifts ys (row + xs.length) middle last) :
  Lifts (xs ++ ys) row first last
  := by
  intro covered h
  rw [placeRows_append]
  apply hys
  apply hxs covered h

/-- Rows without cells in front use up what hangs over them. -/
theorem lifts_bodyRows {rows : List Row} (hbody : ∀ r ∈ rows, IsBody r.cells) (row a b : Nat) :
  Lifts rows row (stairs row (a + rows.length) (b + rows.length)) (stairs (row + rows.length) a b)
  := by
  induction rows generalizing row with
  | nil => apply lifts_nil
  | cons r rows ih =>
    intro covered h
    rw [placeRows]
    have hstep := skyline_bodyRow h (Nat.zero_le 2) (hbody r List.mem_cons_self)
    have hrest := ih (fun r' h' => hbody r' (List.mem_cons_of_mem r h')) (row + 1) _ hstep
    rw [Nat.add_right_comm, Nat.add_assoc] at hrest
    exact hrest

variable [Escaping] (formatDoc : DocBlock → String)

theorem exists_bodyRows_cons {s : Symbol} (h : s.rowCount ≠ 0) :
  ∃ own rest, ownRows formatDoc s = own :: rest ∧ s.rowCount = rest.length + 1
    ∧ IsBody own.cells ∧ ∀ r ∈ rest, IsBody r.cells
  := by
  obtain ⟨own, rest, hrows, hcount⟩ := exists_ownRows_cons formatDoc h
  have hbody r (hr : r ∈ own :: rest) : IsBody r.cells := by
    rw [← hrows] at hr
    apply isBody_of_mem hr
  use own, rest, hrows, hcount, hbody own List.mem_cons_self
  intro r hr
  apply hbody r (List.mem_cons_of_mem own hr)

/-- The rows of a symbol go under the cell of their namespace. -/
theorem lifts_classRows (s : Symbol) (row a : Nat) :
  Lifts (classRows formatDoc s) row (stairs row (a + s.rowCount) 0)
    (stairs (row + s.rowCount) a 0)
  := by
  rw [classRows]
  split
  case isTrue h =>
    rw [h]
    apply lifts_nil
  case isFalse h =>
    obtain ⟨own, rest, hrows, hcount, hown, hrest⟩ := exists_bodyRows_cons formatDoc h
    rw [hrows, List.modifyHead_cons]
    intro covered hcovered
    rw [hcount, ← Nat.add_assoc] at hcovered
    have hclass : (classCell s).rowSpan = 0 + rest.length + 1 := by
      rw [Nat.zero_add]
      exact hcount
    have hstep := skyline_classRow hcovered (Nat.zero_le 1) hclass rfl hown
    rw [placeRows, hcount, Nat.add_comm rest.length, ← Nat.add_assoc]
    apply lifts_bodyRows hrest (row + 1) a 0 _ hstep

/-- The rows of the first symbol of a namespace that has any bring the cell of the namespace. -/
theorem lifts_firstRows {s : Symbol} (h : s.rowCount ≠ 0) {first : Cell} {a : Nat}
    (hspan : first.rowSpan = a + s.rowCount) (hcolumns : first.colSpan = 1) (row : Nat) :
  Lifts ((ownRows formatDoc s).modifyHead (lead (some first) (some (classCell s)))) row
    (stairs row 0 0) (stairs (row + s.rowCount) a 0)
  := by
  obtain ⟨own, rest, hrows, hcount, hown, hrest⟩ := exists_bodyRows_cons formatDoc h
  rw [hrows, List.modifyHead_cons]
  intro covered hcovered
  rw [hcount, ← Nat.add_assoc] at hspan
  have hclass : (classCell s).rowSpan = 0 + rest.length + 1 := by
    rw [Nat.zero_add]
    exact hcount
  have hstep := skyline_namespaceRow hcovered hspan hcolumns hclass rfl hown
  rw [placeRows, hcount, Nat.add_comm rest.length, ← Nat.add_assoc]
  apply lifts_bodyRows hrest (row + 1) a 0 _ hstep

theorem lifts_flatMap_classRows (symbols : List Symbol) (row a : Nat) :
  Lifts (symbols.flatMap (classRows formatDoc)) row
    (stairs row (a + (symbols.map Symbol.rowCount).sum) 0)
    (stairs (row + (symbols.map Symbol.rowCount).sum) a 0)
  := by
  induction symbols generalizing row with
  | nil => apply lifts_nil
  | cons s symbols ih =>
    have hspan : a + (s.rowCount + (symbols.map Symbol.rowCount).sum)
        = a + (symbols.map Symbol.rowCount).sum + s.rowCount := by omega
    rw [List.flatMap_cons, List.map_cons, List.sum_cons, hspan, ← Nat.add_assoc row]
    apply Lifts.append (lifts_classRows formatDoc s row _)
    rw [length_classRows]
    apply ih

/-- The rows of symbols use up a cell that waits for them and spans as many rows as are counted. -/
theorem lifts_symbolRows (symbols : List Symbol) {cell : Cell}
    (hspan : cell.rowSpan = (symbols.map Symbol.rowCount).sum) (hcolumns : cell.colSpan = 1)
    (row : Nat) :
  Lifts (symbolRows formatDoc (some cell) symbols) row (stairs row 0 0)
    (stairs (row + (symbols.map Symbol.rowCount).sum) 0 0)
  := by
  induction symbols with
  | nil => apply lifts_nil
  | cons s symbols ih =>
    rw [List.map_cons, List.sum_cons] at hspan ⊢
    by_cases h : s.rowCount = 0
    · -- the cell waits on for the next symbol
      rw [symbolRows, if_pos h, h, Nat.zero_add]
      rw [h, Nat.zero_add] at hspan
      apply ih hspan
    · rw [symbolRows_cons formatDoc _ h, symbolRows_none, ← Nat.add_assoc]
      rw [Nat.add_comm] at hspan
      apply Lifts.append (lifts_firstRows formatDoc h hspan hcolumns row)
      rw [List.length_modifyHead, length_ownRows formatDoc h]
      have hrest := lifts_flatMap_classRows formatDoc symbols (row + s.rowCount) 0
      rw [Nat.zero_add] at hrest
      exact hrest

theorem lifts_namespaceRows (name : String) (symbols : OrderedMap String Symbol) (row : Nat) :
  Lifts (namespaceRows formatDoc name symbols) row (stairs row 0 0)
    (stairs (row + (namespaceRows formatDoc name symbols).length) 0 0)
  := by
  rw [length_namespaceRows]
  apply lifts_symbolRows formatDoc symbols.values rfl rfl

/-- The rows of namespaces take a level skyline to a level one. -/
theorem lifts_entries (entries : List (String × OrderedMap String Symbol)) (row : Nat) :
  Lifts (entries.flatMap fun (name, symbols) => namespaceRows formatDoc name symbols) row
    (stairs row 0 0)
    (stairs (row + (entries.flatMap fun (name, symbols) =>
      namespaceRows formatDoc name symbols).length) 0 0)
  := by
  induction entries generalizing row with
  | nil => apply lifts_nil
  | cons e entries ih =>
    obtain ⟨name, symbols⟩ := e
    rw [List.flatMap_cons, List.length_append, ← Nat.add_assoc]
    apply Lifts.append (lifts_namespaceRows formatDoc name symbols row)
    apply ih

/-- The table of a snapshot tiles its four columns. -/
theorem build_tiles (snapshot : Snapshot) :
  Tiles (build snapshot formatDoc) 4
  := by
  have hempty : Skyline [] (stairs 0 0 0) := by
    have hlevel : stairs 0 0 0 = fun _ => 0 := by
      funext c
      simp only [stairs]
      split_ifs <;> omega
    rw [hlevel]
    apply skyline_nil
  have hbuild : Skyline (coveredSlots (build snapshot formatDoc))
      (stairs (0 + (build snapshot formatDoc).length) 0 0) :=
    lifts_entries formatDoc snapshot.entries 0 [] hempty
  intro slot
  rw [hbuild slot.1 slot.2]
  simp only [stairs]
  split_ifs <;> omega

end Table

end DocTable
