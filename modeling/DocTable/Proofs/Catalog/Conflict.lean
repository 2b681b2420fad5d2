import DocTable.Proofs.Catalog.Merge

/-!
# Conflicts of a batch

`Clashes` says when a symbol of a batch is in conflict with the catalog or with the symbols before
it, and `FirstClash` singles out the first that is.  A merge raises exactly when there is a clash,
it names the first one, and it leaves the catalog as it was.

The check reads the names of the batch from a map of its own.  `Checked` says what that map knows
when a part of the batch is checked.
-/

namespace DocTable

namespace Catalog

/-- The symbol that a place is bound to: that of the catalog, or else the first of a batch. -/
def holder? (catalog : Catalog) (batch : List Symbol) (place : String × String) : Option Symbol :=
  (catalog.find? place.1 place.2).or (batch.find? (·.place = place))

/-- The place of a symbol is bound to another full name, by the catalog or by a symbol that comes
earlier in the batch. -/
def Clashes (catalog : Catalog) (earlier : List Symbol) (s : Symbol) : Prop :=
  (∃ known, catalog.find? s.namespaceName s.shortName = some known
      ∧ known.fullName ≠ s.fullName)
    ∨ ∃ e ∈ earlier, e.place = s.place ∧ e.fullName ≠ s.fullName

/-- No symbol of a batch clashes. -/
def ClashFree (catalog : Catalog) (batch : List Symbol) : Prop :=
  ∀ earlier s, earlier ++ [s] <+: batch → ¬ Clashes catalog earlier s

/-- The symbol after `earlier` is the first of a batch that clashes. -/
structure FirstClash (catalog : Catalog) (batch earlier : List Symbol) (s : Symbol) : Prop where
  occurs : earlier ++ [s] <+: batch
  clashes : Clashes catalog earlier s
  free : ClashFree catalog earlier

variable {catalog : Catalog} {batch earlier earlier' : List Symbol} {s s' : Symbol}

theorem clashFree_nil :
  ClashFree catalog []
  := by
  intro earlier s h
  simp at h

theorem ClashFree.snoc (h : ClashFree catalog batch) (hs : ¬ Clashes catalog batch s) :
  ClashFree catalog (batch ++ [s])
  := by
  intro earlier s' hoccurs
  obtain heq | hbefore := List.prefix_concat_iff.mp hoccurs
  · obtain ⟨rfl, hlast⟩ := List.append_inj' heq rfl
    obtain rfl := List.singleton_inj.mp hlast
    apply hs
  · apply h _ _ hbefore

/-- Of two clashes neither of which has a clash before it, neither comes earlier. -/
theorem FirstClash.length_le (h : FirstClash catalog batch earlier s)
    (h' : FirstClash catalog batch earlier' s') :
  earlier'.length ≤ earlier.length
  := by
  by_contra hlt
  apply h'.free _ _ _ h.clashes
  have hinit : earlier' <+: batch := (List.prefix_append _ _).trans h'.occurs
  apply List.prefix_of_prefix_length_le h.occurs hinit
  rw [List.length_append, List.length_singleton]
  omega

/-- A batch has at most one first clash. -/
theorem FirstClash.unique (h : FirstClash catalog batch earlier s)
    (h' : FirstClash catalog batch earlier' s') :
  earlier = earlier' ∧ s = s'
  := by
  have hlength : (earlier ++ [s]).length = (earlier' ++ [s']).length := by
    have hle := h.length_le h'
    have hge := h'.length_le h
    rw [List.length_append, List.length_append, List.length_singleton, List.length_singleton]
    omega
  have hinit := List.prefix_of_prefix_length_le h.occurs h'.occurs (Nat.le_of_eq hlength)
  obtain ⟨hearlier, hlast⟩ := List.append_inj' (hinit.eq_of_length hlength) rfl
  exact ⟨hearlier, List.singleton_inj.mp hlast⟩

/-! ### What is known of the part that is checked -/

/-- A part of a batch is checked: no symbol of it clashes, every place is bound to the name of its
holder, and all symbols of the part have the names that their places are bound to. -/
structure Checked (catalog : Catalog) (earlier : List Symbol)
    (pending : OrderedMap (String × String) String) : Prop where
  free : ClashFree catalog earlier
  bound : ∀ place,
    catalog.boundName? pending place = (catalog.holder? earlier place).map Symbol.fullName
  agree : ∀ e ∈ earlier, catalog.boundName? pending e.place = some e.fullName

theorem checked_nil (catalog : Catalog) :
  Checked catalog [] .empty
  where
  free := clashFree_nil
  bound place := by
    rw [boundName?, OrderedMap.get?_empty, Option.none_or, holder?, List.find?_nil, Option.or_none]
  agree e he := by simp at he

variable {pending : OrderedMap (String × String) String}

/-- A symbol clashes if the name that its place is bound to is not its own. -/
theorem Checked.clashes_iff (h : Checked catalog earlier pending) :
  Clashes catalog earlier s
    ↔ ∃ name, catalog.boundName? pending s.place = some name ∧ name ≠ s.fullName
  := by
  constructor
  · rintro (⟨known, hknown, hne⟩ | ⟨e, he, hplace, hne⟩)
    · use known.fullName
      have hholder : catalog.holder? earlier s.place = some known := by
        rw [holder?, Symbol.place, hknown, Option.some_or]
      rw [h.bound, hholder]
      exact ⟨rfl, hne⟩
    · use e.fullName
      rw [← hplace, h.agree e he]
      exact ⟨rfl, hne⟩
  · rintro ⟨name, hname, hne⟩
    rw [h.bound, Option.map_eq_some_iff] at hname
    obtain ⟨holder, hholder, rfl⟩ := hname
    rw [holder?, Option.or_eq_some_iff] at hholder
    obtain hknown | ⟨-, hfound⟩ := hholder
    · left
      use holder, hknown, hne
    · right
      use holder, List.mem_of_find?_eq_some hfound
      exact ⟨by simpa using List.find?_some hfound, hne⟩

/-- A symbol that does not clash is checked by binding its place to its name. -/
theorem Checked.snoc (h : Checked catalog earlier pending) (hs : ¬ Clashes catalog earlier s) :
  Checked catalog (earlier ++ [s]) (pending.put s.place s.fullName)
  where
  free := h.free.snoc hs
  bound place := by
    rw [boundName?_put, holder?, List.find?_append, ← Option.or_assoc, ← holder?]
    by_cases hplace : place = s.place
    · subst hplace
      rw [if_pos rfl, List.find?_singleton, if_pos (decide_eq_true rfl)]
      cases hholder : catalog.holder? earlier s.place with
      | none => rw [Option.none_or, Option.map_some]
      | some holder =>
        rw [Option.some_or, Option.map_some]
        -- the holder has the name of `s`, since `s` would clash with it otherwise
        by_contra hne
        apply hs
        rw [h.clashes_iff]
        use holder.fullName
        rw [h.bound, hholder, Option.map_some]
        exact ⟨rfl, fun heq => hne (congrArg some heq.symm)⟩
    · rw [if_neg hplace, List.find?_singleton, if_neg (by simpa using Ne.symm hplace),
        Option.or_none, h.bound]
  agree e he := by
    rw [boundName?_put]
    obtain he | he := List.mem_append.mp he
    · split
      case isTrue hplace =>
        by_contra hne
        apply hs
        right
        use e, he, hplace
        intro heq
        apply hne
        rw [heq]
      case isFalse => apply h.agree e he
    · rw [List.mem_singleton.mp he, if_pos rfl]

/-! ### What a merge raises -/

/-- A conflict is about the first clash of a batch: it has the place and the name of the symbol that
clashes, and the name of the symbol that its place is bound to. -/
def Reports (catalog : Catalog) (batch : List Symbol) (conflict : Conflict) : Prop :=
  ∃ earlier s holder, FirstClash catalog batch earlier s
    ∧ catalog.holder? batch s.place = some holder
    ∧ conflict = ⟨s.namespaceName, s.shortName, holder.fullName, s.fullName⟩

theorem Reports.unique {conflict conflict' : Conflict} (h : Reports catalog batch conflict)
    (h' : Reports catalog batch conflict') :
  conflict = conflict'
  := by
  obtain ⟨earlier, s, holder, hfirst, hholder, rfl⟩ := h
  obtain ⟨earlier', s', holder', hfirst', hholder', rfl⟩ := h'
  obtain ⟨-, rfl⟩ := hfirst.unique hfirst'
  rw [hholder, Option.some.injEq] at hholder'
  rw [hholder']

/-- A place keeps its holder when more symbols follow. -/
theorem holder?_append {place : String × String} {holder : Symbol}
    (h : catalog.holder? earlier place = some holder) (later : List Symbol) :
  catalog.holder? (earlier ++ later) place = some holder
  := by
  rw [holder?, List.find?_append, ← Option.or_assoc, ← holder?, h, Option.some_or]

/-- The check of the rest of a batch finds the first clash of the whole batch. -/
theorem Checked.conflict?_spec (h : Checked catalog earlier pending) (rest : List Symbol) :
  match catalog.conflict? pending rest with
  | some conflict => Reports catalog (earlier ++ rest) conflict
  | none => ClashFree catalog (earlier ++ rest)
  := by
  induction rest generalizing earlier pending with
  | nil =>
    rw [List.append_nil]
    apply h.free
  | cons s rest ih =>
    rw [conflict?]
    cases hfilter : (catalog.boundName? pending s.place).filter (· ≠ s.fullName) with
    | some existing =>
      obtain ⟨hname, hne⟩ := Option.filter_eq_some_iff.mp hfilter
      have hclash : Clashes catalog earlier s :=
        h.clashes_iff.mpr ⟨existing, hname, of_decide_eq_true hne⟩
      rw [h.bound, Option.map_eq_some_iff] at hname
      obtain ⟨holder, hholder, rfl⟩ := hname
      use earlier, s, holder
      refine ⟨⟨?_, hclash, h.free⟩, holder?_append hholder _, rfl⟩
      use rest
      rw [List.append_assoc, List.singleton_append]
    | none =>
      have hs : ¬ Clashes catalog earlier s := by
        rw [h.clashes_iff]
        rintro ⟨name, hname, hne⟩
        rw [hname, Option.filter_some, if_pos (decide_eq_true hne)] at hfilter
        contradiction
      have hrest := ih (h.snoc hs)
      rw [List.append_assoc, List.singleton_append] at hrest
      exact hrest

theorem conflict?_spec (catalog : Catalog) (batch : List Symbol) :
  match catalog.conflict? .empty batch with
  | some conflict => Reports catalog batch conflict
  | none => ClashFree catalog batch
  := (checked_nil catalog).conflict?_spec batch

/-- There is a conflict to report if some symbol of the batch clashes. -/
theorem exists_reports_iff :
  (∃ conflict, Reports catalog batch conflict)
    ↔ ∃ earlier s, earlier ++ [s] <+: batch ∧ Clashes catalog earlier s
  := by
  constructor
  · rintro ⟨conflict, earlier, s, holder, hfirst, -⟩
    use earlier, s, hfirst.occurs, hfirst.clashes
  · rintro ⟨earlier, s, hoccurs, hclash⟩
    have hspec := conflict?_spec catalog batch
    cases hconflict : catalog.conflict? .empty batch with
    | none =>
      rw [hconflict] at hspec
      exact absurd hclash (hspec earlier s hoccurs)
    | some conflict =>
      rw [hconflict] at hspec
      exact ⟨conflict, hspec⟩

theorem run_merge_eq_error_iff {conflict : Conflict} {after : Catalog} :
  (merge batch).run catalog = .error conflict after
    ↔ after = catalog ∧ Reports catalog batch conflict
  := by
  have hspec := conflict?_spec catalog batch
  rw [run_merge]
  cases hconflict : catalog.conflict? .empty batch with
  | none =>
    rw [hconflict] at hspec
    constructor
    · intro h
      simp at h
    · rintro ⟨-, earlier, s, holder, hfirst, -⟩
      exact absurd hfirst.clashes (hspec _ _ hfirst.occurs)
  | some found =>
    rw [hconflict] at hspec
    constructor
    · intro h
      cases h
      exact ⟨rfl, hspec⟩
    · rintro ⟨rfl, h⟩
      rw [h.unique hspec]

/-- A merge raises a conflict if and only if some symbol of the batch clashes.  What it raises is
about the first such symbol, and it leaves the catalog as it was. -/
theorem merge_raises_first_clash (catalog : Catalog) (batch : List Symbol) :
  ((∃ conflict after, (merge batch).run catalog = .error conflict after)
      ↔ ∃ earlier s, earlier ++ [s] <+: batch ∧ Clashes catalog earlier s)
    ∧ ∀ conflict after, (merge batch).run catalog = .error conflict after
      ↔ after = catalog ∧ Reports catalog batch conflict
  := by
  constructor
  · rw [← exists_reports_iff]
    constructor
    · rintro ⟨conflict, after, h⟩
      exact ⟨conflict, (run_merge_eq_error_iff.mp h).2⟩
    · rintro ⟨conflict, h⟩
      use conflict, catalog
      apply run_merge_eq_error_iff.mpr ⟨rfl, h⟩
  · intro conflict after
    apply run_merge_eq_error_iff

end Catalog

end DocTable
