/-!
# Ordered maps

`OrderedMap κ α` is a finite map that remembers the order in which its keys first appeared: a list
of entries with pairwise distinct keys.  `put` replaces the value of a known key in its place and
adds a new key at the end.
-/

namespace DocTable

universe u v w

/-- A finite map whose keys have an order. -/
@[ext]
structure OrderedMap (κ : Type u) (α : Type v) where
  /-- The keys with their values, in order. -/
  entries : List (κ × α)
  /-- No key appears twice. -/
  nodup : (entries.map Prod.fst).Nodup

namespace OrderedMap

variable {κ : Type u} {α : Type v} {β : Type w}

instance [DecidableEq κ] [DecidableEq α] : DecidableEq (OrderedMap κ α) := fun m n =>
  decidable_of_iff (m.entries = n.entries) ⟨OrderedMap.ext, fun h => h ▸ rfl⟩

/-- The map without keys. -/
def empty : OrderedMap κ α := ⟨[], by simp⟩

instance : Inhabited (OrderedMap κ α) := ⟨empty⟩

/-- The keys in order. -/
def keys (m : OrderedMap κ α) : List κ := m.entries.map Prod.fst

/-- The values in the order of their keys. -/
def values (m : OrderedMap κ α) : List α := m.entries.map Prod.snd

/-- The number of keys. -/
def size (m : OrderedMap κ α) : Nat := m.entries.length

/-- The map has no key. -/
def isEmpty (m : OrderedMap κ α) : Bool := m.entries.isEmpty

/-- The map with `f` applied to every value. -/
def map (f : α → β) (m : OrderedMap κ α) : OrderedMap κ β where
  entries := m.entries.map fun (k, a) => (k, f a)
  nodup := by simpa [List.map_map, Function.comp_def] using m.nodup

variable [DecidableEq κ]

/-- The value of a key. -/
def get? (m : OrderedMap κ α) (k : κ) : Option α := m.entries.lookup k

/-- The entries with `f` applied to the value of `k`, or with `f none` for `k` at the end. -/
def alterEntries (k : κ) (f : Option α → α) : List (κ × α) → List (κ × α)
  | [] => [(k, f none)]
  | (k', a) :: es => if k' = k then (k', f (some a)) :: es else (k', a) :: alterEntries k f es

theorem mem_keys_alterEntries {k x : κ} {f : Option α → α} {es : List (κ × α)} :
  x ∈ (alterEntries k f es).map Prod.fst ↔ x = k ∨ x ∈ es.map Prod.fst
  := by
  induction es with
  | nil => simp [alterEntries]
  | cons e es ih =>
    by_cases h : e.1 = k
    · simp only [alterEntries, h, if_true, List.map_cons, List.mem_cons]
      grind
    · simp only [alterEntries, h, if_false, List.map_cons, List.mem_cons, ih]
      grind

theorem nodup_alterEntries {k : κ} {f : Option α → α} {es : List (κ × α)}
    (h : (es.map Prod.fst).Nodup) :
  ((alterEntries k f es).map Prod.fst).Nodup
  := by
  induction es with
  | nil => simp [alterEntries]
  | cons e es ih =>
    simp only [List.map_cons, List.nodup_cons] at h
    by_cases hk : e.1 = k
    · simpa only [alterEntries, hk, if_true, List.map_cons, List.nodup_cons] using hk ▸ h
    · simp only [alterEntries, hk, if_false, List.map_cons, List.nodup_cons,
        mem_keys_alterEntries]
      exact ⟨fun hx => hx.elim False.elim h.1, ih h.2⟩

/-- The map with `f` applied to the value of `k`; a new key comes last, with the value `f none`. -/
def alter (m : OrderedMap κ α) (k : κ) (f : Option α → α) : OrderedMap κ α where
  entries := alterEntries k f m.entries
  nodup := nodup_alterEntries m.nodup

/-- The map with the value `a` for `k`, which keeps its place if it is a key already. -/
def put (m : OrderedMap κ α) (k : κ) (a : α) : OrderedMap κ α :=
  m.alter k fun _ => a

/-- The map of a list of entries: a later entry replaces the value of an earlier one. -/
def ofList (es : List (κ × α)) : OrderedMap κ α :=
  es.foldl (fun m e => m.put e.1 e.2) empty

end OrderedMap

/-- The items of a list grouped by a key, in the order in which the keys first appear. -/
def groupBy {κ : Type u} {α : Type v} [DecidableEq κ] (key : α → κ) (items : List α) :
    OrderedMap κ (List α) :=
  items.foldl (fun m a => m.alter (key a) fun group => (group.getD []) ++ [a]) .empty

end DocTable
