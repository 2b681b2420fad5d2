import DocTable.Proofs.Catalog.History

/-!
# Batches that come again

A batch that a catalog has taken is taken again, and changes nothing then: all its places are bound
to the names of its symbols, no namespace and no short name is new, and each place has the last of
its symbols already.
-/

namespace DocTable

namespace Catalog

variable {catalog next : Catalog} {batch : List Symbol}

/-- The place of every symbol of a batch is bound to the name of that symbol. -/
def Binds (catalog : Catalog) (batch : List Symbol) : Prop :=
  ∀ s ∈ batch, ∃ known, catalog.find? s.namespaceName s.shortName = some known
    ∧ known.fullName = s.fullName

/-- A batch that is taken binds the names of its symbols. -/
theorem binds_of_ingest (h : catalog.ingest batch = .ok next) :
  next.Binds batch
  := by
  intro s hs
  obtain ⟨before, after, rfl⟩ := List.append_of_mem hs
  rw [ingest_eq_foldlM, List.foldlM_append] at h
  cases hbefore : before.foldlM add catalog with
  | error conflict =>
    rw [hbefore] at h
    contradiction
  | ok first =>
    rw [hbefore] at h
    replace h : (s :: after).foldlM add first = .ok next := h
    rw [List.foldlM_cons] at h
    cases hs : first.add s with
    | error conflict =>
      rw [hs] at h
      contradiction
    | ok second =>
      rw [hs] at h
      have hfind : second.find? s.namespaceName s.shortName = some s := by
        rw [eq_set_of_add hs, find?_set, Symbol.place, if_pos rfl]
      apply (grows_foldlM h).fullName _ _ _ hfind

/-- A symbol may be set where its name is bound. -/
theorem add_of_binds {s : Symbol} (h : catalog.Binds [s]) :
  catalog.add s = .ok (catalog.set s)
  := by
  obtain ⟨known, hknown, hname⟩ := h s List.mem_cons_self
  have hbound : catalog.boundName? .empty s.place = some s.fullName := by
    rw [boundName?, OrderedMap.get?_empty, Option.none_or, Symbol.place, hknown, Option.map_some,
      hname]
  rw [add, hbound, Option.filter_some, if_neg (by simp)]

/-- Names stay bound when a symbol is set under its own name. -/
theorem Binds.set {s : Symbol} (h : catalog.Binds (s :: batch)) :
  (catalog.set s).Binds batch
  := by
  intro t ht
  obtain ⟨known, hknown, hname⟩ := h t (List.mem_cons_of_mem s ht)
  rw [find?_set]
  split_ifs with hplace
  · obtain ⟨known', hknown', hname'⟩ := h s List.mem_cons_self
    obtain ⟨hnamespace, hshort⟩ := Prod.mk.inj hplace
    rw [← hnamespace, ← hshort, hknown, Option.some.injEq] at hknown'
    use s, rfl
    rw [← hname', ← hknown', hname]
  · use known, hknown, hname

theorem ingest_of_binds (h : catalog.Binds batch) :
  catalog.ingest batch = .ok (batch.foldl set catalog)
  := by
  rw [ingest_eq_foldlM]
  induction batch generalizing catalog with
  | nil => rfl
  | cons s batch ih =>
    have hs : catalog.Binds [s] := by
      intro t ht
      apply h t
      rw [List.mem_singleton.mp ht]
      apply List.mem_cons_self
    rw [List.foldlM_cons, add_of_binds hs]
    apply ih h.set

/-! ### Setting a batch again -/

theorem mem_keys_of_find? {name short : String} {s : Symbol}
    (h : catalog.find? name short = some s) :
  name ∈ catalog.keys ∧ short ∈ catalog.shortNames name
  := by
  obtain ⟨symbols, hsymbols, hs⟩ := Option.bind_eq_some_iff.mp h
  constructor
  · by_contra hname
    rw [OrderedMap.get?_eq_none_iff.mpr hname] at hsymbols
    contradiction
  · rw [shortNames, hsymbols, Option.getD_some]
    by_contra hshort
    rw [OrderedMap.get?_eq_none_iff.mpr hshort] at hs
    contradiction

/-- Where all places are bound, a batch brings no new names. -/
theorem names_foldl_set (h : catalog.Binds batch) :
  (batch.foldl set catalog).keys = catalog.keys
    ∧ ∀ name, (batch.foldl set catalog).shortNames name = catalog.shortNames name
  := by
  induction batch generalizing catalog with
  | nil => exact ⟨rfl, fun _ => rfl⟩
  | cons s batch ih =>
    obtain ⟨known, hknown, -⟩ := h s List.mem_cons_self
    obtain ⟨hname, hshort⟩ := mem_keys_of_find? hknown
    obtain ⟨hkeys, hshorts⟩ := ih h.set
    rw [List.foldl_cons]
    constructor
    · rw [hkeys, set, OrderedMap.keys_alter, if_pos hname]
    · intro name
      rw [hshorts, shortNames_set, if_neg]
      rintro ⟨rfl, hnew⟩
      contradiction

/-- Each place has the last symbol of a batch that is set there, or what it had before. -/
theorem find?_foldl_set (catalog : Catalog) (batch : List Symbol) (name short : String) :
  (batch.foldl set catalog).find? name short
    = (batch.reverse.find? (·.place = (name, short))).or (catalog.find? name short)
  := by
  induction batch using List.reverseRecOn with
  | nil => rfl
  | append_singleton batch s ih =>
    rw [List.foldl_append, List.foldl_cons, List.foldl_nil, find?_set, List.reverse_append,
      List.reverse_singleton, List.singleton_append, List.find?_cons, ih]
    by_cases hplace : s.place = (name, short)
    · simp [hplace]
    · simp [hplace, Ne.symm hplace]

theorem foldl_set_foldl_set (h : (batch.foldl set catalog).Binds batch) :
  batch.foldl set (batch.foldl set catalog) = batch.foldl set catalog
  := by
  obtain ⟨hkeys, hshorts⟩ := names_foldl_set h
  apply ext_find? hkeys hshorts
  intro name short
  rw [find?_foldl_set, find?_foldl_set, ← Option.or_assoc, Option.or_self]

/-- A batch that a catalog has taken is taken again, and changes nothing then. -/
theorem ingest_ingest (h : catalog.ingest batch = .ok next) :
  next.ingest batch = .ok next
  := by
  have hbinds := binds_of_ingest h
  rw [ingest_of_binds hbinds]
  rw [ingest_eq] at h
  split at h
  case h_1 => contradiction
  case h_2 =>
    obtain rfl := Except.ok.inj h
    rw [foldl_set_foldl_set hbinds]

end Catalog

end DocTable
