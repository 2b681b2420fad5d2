import DocTable.Proofs.Catalog.Merge
import Mathlib.Data.List.Induction

/-!
# Runs of a catalog

A run merges one batch after another into an empty catalog; some batches are refused.  `ofRun` is
the catalog after a run, and `taken` are the batches that were not refused.

`Reflects` says what a catalog shows of a stream of symbols: namespaces and short names in the order
of their first appearance, and at each place the last symbol.  A catalog is determined by what it
shows, and after a run it shows the stream of the batches that were taken.
-/

namespace DocTable

namespace Catalog

/-- The short names of a namespace, in order. -/
def shortNames (catalog : Catalog) (name : String) : List String :=
  ((catalog.get? name).getD .empty).keys

/-- A catalog shows the symbols of a stream. -/
structure Reflects (catalog : Catalog) (stream : List Symbol) : Prop where
  /-- The namespaces stand in the order of their first appearance. -/
  namespaces : catalog.keys = (stream.map (·.namespaceName)).eraseDups
  /-- The short names of a namespace stand in the order of their first appearance. -/
  shortNames : ∀ name, catalog.shortNames name
    = ((stream.filter (·.namespaceName = name)).map (·.shortName)).eraseDups
  /-- At each place is the last symbol of the stream that has it. -/
  symbol : ∀ name short, catalog.find? name short
    = stream.reverse.find? (·.place = (name, short))

variable {catalog : Catalog} {stream : List Symbol}

theorem reflects_empty :
  Reflects .empty []
  where
  namespaces := rfl
  shortNames _ := rfl
  symbol _ _ := rfl

theorem shortNames_set (catalog : Catalog) (s : Symbol) (name : String) :
  (catalog.set s).shortNames name
    = if name = s.namespaceName ∧ s.shortName ∉ catalog.shortNames name
      then catalog.shortNames name ++ [s.shortName]
      else catalog.shortNames name
  := by
  rw [shortNames, set, OrderedMap.get?_alter]
  by_cases hname : name = s.namespaceName
  · subst hname
    rw [if_pos rfl, Option.getD_some, OrderedMap.keys_put, ← shortNames]
    by_cases hshort : s.shortName ∈ catalog.shortNames s.namespaceName
    · rw [if_pos hshort, if_neg (by simp [hshort])]
    · rw [if_neg hshort, if_pos ⟨rfl, hshort⟩]
  · rw [if_neg hname, if_neg (by simp [hname]), ← shortNames]

/-- A symbol that is set in a catalog is one more symbol of the stream. -/
theorem Reflects.set (h : Reflects catalog stream) (s : Symbol) :
  Reflects (catalog.set s) (stream ++ [s])
  where
  namespaces := by
    rw [Catalog.set, OrderedMap.keys_alter, List.map_append, List.map_singleton, eraseDups_concat,
      h.namespaces]
    simp only [List.mem_eraseDups]
  shortNames name := by
    rw [shortNames_set, h.shortNames, List.filter_append]
    by_cases hname : s.namespaceName = name
    · have hlast : [s].filter (·.namespaceName = name) = [s] := by simp [hname]
      rw [hlast, List.map_append, List.map_singleton, eraseDups_concat]
      simp only [List.mem_eraseDups, hname, true_and, ite_not]
    · have hlast : [s].filter (·.namespaceName = name) = [] := by simp [hname]
      rw [hlast, List.append_nil, if_neg]
      rintro ⟨rfl, -⟩
      contradiction
  symbol name short := by
    rw [find?_set, List.reverse_append, List.reverse_singleton, List.singleton_append,
      List.find?_cons, h.symbol]
    by_cases hplace : s.place = (name, short)
    · simp [hplace]
    · simp [hplace, Ne.symm hplace]

theorem reflects_foldl_set (stream : List Symbol) :
  Reflects (stream.foldl Catalog.set .empty) stream
  := by
  induction stream using List.reverseRecOn with
  | nil => exact reflects_empty
  | append_singleton stream s ih =>
    rw [List.foldl_append]
    apply ih.set

/-- A catalog is determined by its namespaces, the short names of each, and the symbol at each
place. -/
theorem ext_find? {catalog catalog' : Catalog} (hkeys : catalog.keys = catalog'.keys)
    (hshorts : ∀ name, catalog.shortNames name = catalog'.shortNames name)
    (hfind : ∀ name short, catalog.find? name short = catalog'.find? name short) :
  catalog = catalog'
  := by
  apply OrderedMap.ext_get? hkeys
  intro name
  have hshort := hshorts name
  have hfound := hfind name
  have hnone : catalog.get? name = none ↔ catalog'.get? name = none := by
    rw [OrderedMap.get?_eq_none_iff, OrderedMap.get?_eq_none_iff, hkeys]
  simp only [Catalog.shortNames, find?] at hshort hfound
  cases hget : catalog.get? name with
  | none => rw [hnone.mp hget]
  | some symbols =>
    cases hget' : catalog'.get? name with
    | none => rw [hnone.mpr hget'] at hget; contradiction
    | some symbols' =>
      rw [hget, hget'] at hshort hfound
      apply congrArg some
      apply OrderedMap.ext_get? hshort hfound

/-- A stream is shown by at most one catalog. -/
theorem Reflects.unique {catalog' : Catalog} (h : Reflects catalog stream)
    (h' : Reflects catalog' stream) :
  catalog = catalog'
  := by
  apply ext_find?
  · rw [h.namespaces, h'.namespaces]
  · intro name
    rw [h.shortNames, h'.shortNames]
  · intro name short
    rw [h.symbol, h'.symbol]

/-! ### Runs -/

/-- The catalog after a batch, taken or refused. -/
def after (catalog : Catalog) (batch : List Symbol) : Catalog :=
  match (merge batch).run catalog with
  | .ok _ next => next
  | .error _ next => next

/-- The catalog after a run of batches, on an empty catalog. -/
def ofRun (batches : List (List Symbol)) : Catalog :=
  batches.foldl after .empty

/-- The batches of a run that a catalog takes. -/
def taken (catalog : Catalog) : List (List Symbol) → List (List Symbol)
  | [] => []
  | batch :: batches =>
    match (merge batch).run catalog with
    | .ok _ next => batch :: next.taken batches
    | .error _ next => next.taken batches

/-- A run puts the symbols of the batches that are taken into the catalog one by one. -/
theorem foldl_after (catalog : Catalog) (batches : List (List Symbol)) :
  batches.foldl after catalog = (catalog.taken batches).flatten.foldl Catalog.set catalog
  := by
  induction batches generalizing catalog with
  | nil => rfl
  | cons batch batches ih =>
    rw [List.foldl_cons, after, taken, run_merge]
    cases catalog.conflict? .empty batch with
    | none => rw [List.flatten_cons, List.foldl_append, ih]
    | some conflict => exact ih catalog

theorem reflects_ofRun (batches : List (List Symbol)) :
  Reflects (ofRun batches) (taken .empty batches).flatten
  := by
  rw [ofRun, foldl_after]
  apply reflects_foldl_set

/-- Every symbol stands at its own place. -/
def WellKeyed (catalog : Catalog) : Prop :=
  ∀ name short s, catalog.find? name short = some s → s.place = (name, short)

/-- The symbol of an entry is found at its place. -/
theorem WellKeyed.place_eq (h : catalog.WellKeyed) {e : String × OrderedMap String Symbol}
    (he : e ∈ catalog.entries) {e' : String × Symbol} (he' : e' ∈ e.2.entries) :
  catalog.find? e.1 e'.1 = some e'.2 ∧ e'.2.place = (e.1, e'.1)
  := by
  have hfind : catalog.find? e.1 e'.1 = some e'.2 := by
    rw [find?, OrderedMap.get?_eq_some_iff.mpr he, Option.bind_some,
      OrderedMap.get?_eq_some_iff.mpr he']
  exact ⟨hfind, h _ _ _ hfind⟩

theorem wellKeyed_ofRun (batches : List (List Symbol)) :
  (ofRun batches).WellKeyed
  := by
  intro name short s h
  rw [(reflects_ofRun batches).symbol] at h
  simpa using List.find?_some h

/-- The catalog after a run is the one that shows the stream of the batches that were taken, and it
does not matter how a stream is cut into batches: from any catalog two batches one after the other
give what one batch gives, a catalog or the first conflict. -/
theorem run_determined_by_stream :
  (∀ batches catalog, Reflects catalog (taken .empty batches).flatten ↔ catalog = ofRun batches)
    ∧ ∀ (catalog : Catalog) (xs ys : List Symbol),
      catalog.ingest (xs ++ ys) = (catalog.ingest xs).bind fun next => next.ingest ys
  := by
  constructor
  · intro batches catalog
    constructor
    · intro h
      apply h.unique (reflects_ofRun batches)
    · rintro rfl
      apply reflects_ofRun
  · apply ingest_append

end Catalog

end DocTable
