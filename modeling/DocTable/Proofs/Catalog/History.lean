import DocTable.Proofs.Catalog.Run

/-!
# The history of a catalog

`Grows` says what stays from an earlier catalog to a later one of the same run: namespaces come
after those that there are, short names after those of their namespace, and every place keeps the
full name that it is bound to.

One symbol makes a catalog grow if it is not refused.  So does a batch, since it is as good as its
symbols one by one, and so does a run.
-/

namespace DocTable

namespace Catalog

/-- A later catalog continues an earlier one. -/
structure Grows (earlier later : Catalog) : Prop where
  /-- New namespaces come last. -/
  namespaces : earlier.keys <+: later.keys
  /-- New short names come last in their namespace. -/
  shortNames : ∀ name, earlier.shortNames name <+: later.shortNames name
  /-- The symbol of a place may be replaced, but not its full name. -/
  fullName : ∀ name short s, earlier.find? name short = some s →
    ∃ t, later.find? name short = some t ∧ t.fullName = s.fullName

variable {catalog next later : Catalog}

theorem Grows.refl (catalog : Catalog) :
  Grows catalog catalog
  where
  namespaces := List.prefix_refl _
  shortNames _ := List.prefix_refl _
  fullName _ _ s h := ⟨s, h, rfl⟩

theorem Grows.trans (h : Grows catalog next) (h' : Grows next later) :
  Grows catalog later
  where
  namespaces := h.namespaces.trans h'.namespaces
  shortNames name := (h.shortNames name).trans (h'.shortNames name)
  fullName name short s hs := by
    obtain ⟨t, ht, hname⟩ := h.fullName name short s hs
    obtain ⟨u, hu, hname'⟩ := h'.fullName name short t ht
    exact ⟨u, hu, hname'.trans hname⟩

/-! ### One step -/

/-- The name that a place is bound to is that of the symbol that is added there. -/
theorem fullName_eq_of_add {s known : Symbol} (h : catalog.add s = .ok next)
    (hknown : catalog.find? s.namespaceName s.shortName = some known) :
  s.fullName = known.fullName
  := by
  have hbound : catalog.boundName? .empty s.place = some known.fullName := by
    rw [boundName?, OrderedMap.get?_empty, Option.none_or, Symbol.place, hknown, Option.map_some]
  by_contra hne
  rw [add, hbound, Option.filter_some, if_pos (decide_eq_true (Ne.symm hne))] at h
  contradiction

theorem eq_set_of_add {s : Symbol} (h : catalog.add s = .ok next) :
  next = catalog.set s
  := by
  rw [add] at h
  split at h
  case h_1 => contradiction
  case h_2 =>
    injection h with h
    exact h.symm

theorem grows_add {s : Symbol} (h : catalog.add s = .ok next) :
  Grows catalog next
  := by
  obtain rfl := eq_set_of_add h
  constructor
  · rw [set, OrderedMap.keys_alter]
    split
    · apply List.prefix_refl
    · apply List.prefix_append
  · intro name
    rw [shortNames_set]
    split
    · apply List.prefix_append
    · apply List.prefix_refl
  · intro name short known hknown
    rw [find?_set]
    by_cases hplace : (name, short) = s.place
    · obtain ⟨rfl, rfl⟩ := Prod.mk.inj hplace
      use s, if_pos rfl, fullName_eq_of_add h hknown
    · use known, (if_neg hplace).trans hknown

/-! ### Batches and runs -/

theorem grows_foldlM {batch : List Symbol} (h : batch.foldlM add catalog = .ok next) :
  Grows catalog next
  := by
  induction batch generalizing catalog with
  | nil =>
    injection h with h
    subst h
    apply Grows.refl
  | cons s batch ih =>
    rw [List.foldlM_cons] at h
    cases hs : catalog.add s with
    | error conflict =>
      rw [hs] at h
      contradiction
    | ok middle =>
      rw [hs] at h
      apply (grows_add hs).trans
      apply ih h

theorem after_eq (catalog : Catalog) (batch : List Symbol) :
  catalog.after batch
    = match catalog.ingest batch with
      | .ok next => next
      | .error _ => catalog
  := by
  rw [after, ingest_eq, run_merge]
  cases catalog.conflict? .empty batch with
  | none => rfl
  | some conflict => rfl

/-- A batch makes a catalog grow, taken or refused. -/
theorem grows_after (catalog : Catalog) (batch : List Symbol) :
  Grows catalog (catalog.after batch)
  := by
  rw [after_eq]
  cases hnext : catalog.ingest batch with
  | error conflict => apply Grows.refl
  | ok next =>
    rw [ingest_eq_foldlM] at hnext
    apply grows_foldlM hnext

theorem grows_foldl_after (catalog : Catalog) (batches : List (List Symbol)) :
  Grows catalog (batches.foldl after catalog)
  := by
  induction batches generalizing catalog with
  | nil => apply Grows.refl
  | cons batch batches ih =>
    apply (grows_after catalog batch).trans
    apply ih

/-- Every namespace that a run leaves behind has a class. -/
theorem shortNames_ofRun_ne_nil {batches : List (List Symbol)} {name : String}
    (h : name ∈ (ofRun batches).keys) :
  (ofRun batches).shortNames name ≠ []
  := by
  have hreflects := reflects_ofRun batches
  rw [hreflects.namespaces, List.mem_eraseDups, List.mem_map] at h
  obtain ⟨s, hs, hname⟩ := h
  apply List.ne_nil_of_mem (a := s.shortName)
  rw [hreflects.shortNames, List.mem_eraseDups]
  apply List.mem_map_of_mem
  apply List.mem_filter.mpr ⟨hs, decide_eq_true hname⟩

/-- After a run every symbol stands at its own place and no namespace is without a class, and every
state of a run continues all states before it. -/
theorem history_stable :
  (∀ batches, (ofRun batches).WellKeyed
      ∧ ∀ name ∈ (ofRun batches).keys, (ofRun batches).shortNames name ≠ [])
    ∧ ∀ batches more, Grows (ofRun batches) (ofRun (batches ++ more))
  := by
  constructor
  · intro batches
    constructor
    · apply wellKeyed_ofRun
    · intro name h
      apply shortNames_ofRun_ne_nil h
  · intro batches more
    rw [ofRun, ofRun, List.foldl_append]
    apply grows_foldl_after

end Catalog

end DocTable
