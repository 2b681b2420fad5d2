import DocTable.Proofs.Manifest.Reading
import DocTable.Proofs.Text.Blank

/-!
# Names that are read from manifests

An entry without a name is no symbol, no member and no parameter.  But a name is only asked to be
more than blanks, before it is stripped and split: one that consists of separators is read as an
empty full name, one that ends with a separator as an empty short name, and one with an empty part
before the last as a namespace that ends with a separator (`readValue_names`).  These are the only
names of a symbol that are not complete.
-/

namespace DocTable

/-- The names of a symbol are complete: none of them is empty, and its namespace neither starts nor
ends with a separator. -/
structure Symbol.HasCompleteNames (s : Symbol) : Prop where
  fullName : s.fullName ≠ ""
  shortName : s.shortName ≠ ""
  namespaceStart : s.namespaceName.toList.head? ≠ some '\\'
  namespaceEnd : s.namespaceName.toList.getLast? ≠ some '\\'
  members : ∀ m ∈ s.members, m.name ≠ ""
  parameters : ∀ m ∈ s.members, ∀ p ∈ m.parameters, p.name ≠ ""

namespace Manifest

open Text

/-! ### Separators -/

theorem stripLeading_eq_nil_iff {c : Char} {cs : List Char} :
  stripLeading c cs = [] ↔ ∀ d ∈ cs, d = c
  := by
  rw [stripLeading, List.dropWhile_eq_nil_iff]
  simp only [decide_eq_true_eq]

theorem ofList_stripLeading_eq_empty_iff {c : Char} {cs : List Char} :
  String.ofList (stripLeading c cs) = "" ↔ ∀ d ∈ cs, d = c
  := by
  rw [← stripLeading_eq_nil_iff, String.ofList_eq_empty_iff]

theorem head?_stripLeading (c : Char) (cs : List Char) :
  (stripLeading c cs).head? ≠ some c
  := by
  intro h
  simpa using head?_dropWhile (· = c) cs c h

/-- Text that is stripped at its start keeps its end, unless nothing is left. -/
theorem getLast?_stripLeading {c : Char} {cs : List Char} (h : stripLeading c cs ≠ []) :
  (stripLeading c cs).getLast? = cs.getLast?
  := by
  have hlast := List.getLast?_eq_some_getLast h
  conv_rhs => rw [← List.takeWhile_append_dropWhile (p := (· = c)) (l := cs), List.getLast?_append]
  rw [← stripLeading, hlast, Option.some_or]

theorem splitFullName_of_not_mem {full : List Char} (h : '\\' ∉ full) :
  splitFullName full = ([], full)
  := by
  have hall : full.reverse.takeWhile (· ≠ '\\') = full.reverse := by
    rw [List.takeWhile_eq_self_iff]
    intro c hc
    simpa using ne_of_mem_of_not_mem (List.mem_reverse.mp hc) h
  simp only [splitFullName, hall, List.reverse_reverse, Nat.sub_self, Nat.zero_sub, List.take_zero]

/-- A full name is split at its last separator. -/
theorem splitFullName_append {short : List Char} (h : '\\' ∉ short) (outer : List Char) :
  splitFullName (outer ++ '\\' :: short) = (outer, short)
  := by
  have hlast : (outer ++ '\\' :: short).reverse.takeWhile (· ≠ '\\') = short.reverse := by
    rw [List.reverse_append, List.reverse_cons, List.append_assoc, List.takeWhile_append_of_pos]
    · simp
    · intro c hc
      simpa using ne_of_mem_of_not_mem (List.mem_reverse.mp hc) h
  have hcount : (outer ++ '\\' :: short).length - short.length - 1 = outer.length := by
    rw [List.length_append, List.length_cons]
    omega
  rw [splitFullName, hlast, List.reverse_reverse, hcount, List.take_left]

theorem exists_last_separator {full : List Char} (h : '\\' ∈ full) :
  ∃ outer short, full = outer ++ '\\' :: short ∧ '\\' ∉ short
  := by
  obtain ⟨short, outer, hfull, hshort⟩ := List.eq_append_cons_of_mem (List.mem_reverse.mpr h)
  use outer.reverse, short.reverse
  rw [List.mem_reverse, ← List.reverse_reverse full, hfull]
  exact ⟨by simp, hshort⟩

/-- The short name is empty just when the name ends with a separator. -/
theorem shortName_eq_nil_iff {name : List Char} (hne : name ≠ []) :
  (splitFullName (stripLeading '\\' name)).2 = [] ↔ name.getLast? = some '\\'
  := by
  by_cases hfull : stripLeading '\\' name = []
  · have hall := stripLeading_eq_nil_iff.mp hfull
    rw [hfull, List.getLast?_eq_some_getLast hne, hall _ (List.getLast_mem hne)]
    exact iff_of_true rfl rfl
  · rw [← getLast?_stripLeading hfull]
    by_cases hmem : '\\' ∈ stripLeading '\\' name
    · obtain ⟨outer, short, hsplit, hshort⟩ := exists_last_separator hmem
      rw [hsplit, splitFullName_append hshort, List.getLast?_append, List.getLast?_cons]
      constructor
      · rintro rfl
        rfl
      · intro hlast
        by_contra hne
        rw [List.getLast?_eq_some_getLast hne] at hlast
        exact hshort (Option.some.inj hlast ▸ List.getLast_mem hne)
    · rw [splitFullName_of_not_mem hmem]
      exact iff_of_false hfull fun hlast => hmem (List.mem_of_getLast? hlast)

/-- The part before the last part of a full name is empty. -/
def HasEmptyPart (full : List Char) : Prop :=
  ∃ outer short, full = outer ++ '\\' :: '\\' :: short ∧ '\\' ∉ short

theorem getLast?_outer_iff {full : List Char} :
  (splitFullName full).1.getLast? = some '\\' ↔ HasEmptyPart full
  := by
  constructor
  · intro hlast
    by_cases hmem : '\\' ∈ full
    · obtain ⟨outer, short, rfl, hshort⟩ := exists_last_separator hmem
      rw [splitFullName_append hshort] at hlast
      obtain ⟨start, rfl⟩ := List.getLast?_eq_some_iff.mp hlast
      refine ⟨start, short, ?_, hshort⟩
      rw [List.append_assoc, List.singleton_append]
    · rw [splitFullName_of_not_mem hmem] at hlast
      contradiction
  · rintro ⟨start, short, rfl, hshort⟩
    rw [List.append_cons, splitFullName_append hshort, List.getLast?_concat]

theorem head?_outer {full : List Char} (h : full.head? ≠ some '\\') :
  (splitFullName full).1.head? ≠ some '\\'
  := by
  rw [splitFullName, List.head?_take]
  split
  · nofun
  · exact h

/-! ### Entries -/

theorem Entry.name?_ne_nil {entry : Entry} {name : List Char} (h : entry.name? = some name) :
  name ≠ []
  := by
  unfold Entry.name? at h
  split at h
  case h_1 s _ =>
    split at h
    case isTrue => contradiction
    case isFalse hblank =>
      obtain rfl := Option.some.inj h
      exact mt trim_eq_nil_iff.mp hblank
  case h_2 => contradiction

/-- A namespace that is given is trimmed at both ends. -/
theorem namespaceOf?_cases {entry : Entry} {given : Option String}
    (h : namespaceOf? entry = .ok given) :
  (entry.field? "namespace" = none ∧ given = none)
    ∨ entry.field? "namespace" ≠ none
      ∧ ∃ text, given = some (String.ofList (trimWhile (· = '\\') text))
  := by
  unfold namespaceOf? at h
  cases hv : entry.field? "namespace" with
  | none =>
    rw [hv] at h
    exact .inl ⟨rfl, (Except.ok.inj h).symm⟩
  | some v =>
    right
    use nofun
    rw [hv, Option.mapM_some, map_eq_pure_bind] at h
    obtain ⟨namespaceName, hread, h⟩ := exists_of_bind_eq_ok h
    obtain rfl := Except.ok.inj h
    split at hread
    · obtain ⟨text, -, hread⟩ := exists_of_bind_eq_ok hread
      exact ⟨text.toList, congrArg some (Except.ok.inj hread).symm⟩
    · exact ⟨[], congrArg some (Except.ok.inj hread).symm⟩

theorem head?_trimWhile (c : Char) (cs : List Char) :
  (trimWhile (· = c) cs).head? ≠ some c
  := by
  intro h
  simpa using (ends_trimWhile (· = c) cs).1 c h

theorem getLast?_trimWhile (c : Char) (cs : List Char) :
  (trimWhile (· = c) cs).getLast? ≠ some c
  := by
  intro h
  simpa using (ends_trimWhile (· = c) cs).2 c h

/-! ### Names of symbols -/

/-- The name of a member or of a parameter is that of its entry without dollar signs at its start,
and is empty just when there is nothing else. -/
def IsNamed (entry : Entry) (name : String) : Prop :=
  ∃ given, entry.name? = some given ∧ name = String.ofList (stripLeading '$' given)
    ∧ (name = "" ↔ ∀ c ∈ given, c = '$')

theorem isNamed_of_stripLeading {entry : Entry} {name : String}
    (h : ∃ given, entry.name? = some given ∧ name = String.ofList (stripLeading '$' given)) :
  IsNamed entry name
  := by
  obtain ⟨given, hgiven, rfl⟩ := h
  exact ⟨given, hgiven, rfl, ofList_stripLeading_eq_empty_iff⟩

/-- The names of a symbol and where they are not complete: its name in the entry consists of
separators, ends with one, or has an empty part before the last one and no namespace beside it. -/
structure AreNamesOf (entry : Entry) (s : Symbol) : Prop where
  names : ∃ given, entry.name? = some given
    ∧ s.fullName = String.ofList (stripLeading '\\' given)
    ∧ (s.fullName = "" ↔ ∀ c ∈ given, c = '\\')
    ∧ (s.shortName = "" ↔ given.getLast? = some '\\')
    ∧ (s.namespaceName.toList.getLast? = some '\\' ↔
        entry.field? "namespace" = none ∧ HasEmptyPart (stripLeading '\\' given))
  namespaceStart : s.namespaceName.toList.head? ≠ some '\\'
  members : ∀ m ∈ s.members, ∃ part e, IsListedIn entry part e ∧ IsNamed e m.name
    ∧ ∀ p ∈ m.parameters, ∃ q, IsListedIn e .parameters q ∧ IsNamed q p.name

theorem IsSymbolOf.areNamesOf {here manifest : Path} {entry : Entry} {s : Symbol}
    (h : IsSymbolOf here manifest entry s) :
  AreNamesOf entry s
  := by
  obtain ⟨name, hname, hfull, hshort, given, hgiven, hnamespace⟩ := h.names
  have hends : (s.namespaceName.toList.getLast? = some '\\' ↔
        entry.field? "namespace" = none ∧ HasEmptyPart (stripLeading '\\' name))
      ∧ s.namespaceName.toList.head? ≠ some '\\' := by
    obtain ⟨hnone, rfl⟩ | ⟨hsome, text, rfl⟩ := namespaceOf?_cases hgiven
    · rw [hnamespace, Option.getD_none, String.toList_ofList, getLast?_outer_iff, hnone]
      exact ⟨by simp, head?_outer (head?_stripLeading '\\' name)⟩
    · rw [hnamespace, Option.getD_some, String.toList_ofList]
      refine ⟨iff_of_false (getLast?_trimWhile '\\' text) fun hnone => hsome hnone.1, ?_⟩
      apply head?_trimWhile
  exact {
    names := by
      refine ⟨name, hname, hfull, ?_, ?_, hends.1⟩
      · rw [hfull, ofList_stripLeading_eq_empty_iff]
      · rw [hshort, String.ofList_eq_empty_iff, shortName_eq_nil_iff (Entry.name?_ne_nil hname)]
    namespaceStart := hends.2
    members := by
      intro m hm
      obtain ⟨part, kind, e, he, hmember⟩ := h.exists_of_mem_members m hm
      refine ⟨part, e, he, isNamed_of_stripLeading hmember.name, fun p hp => ?_⟩
      obtain ⟨q, hq, hparameter⟩ := hmember.exists_of_mem_parameters p hp
      exact ⟨q, hq, isNamed_of_stripLeading hparameter.name⟩ }

/-- A name that is not there is a failure: an entry without one gives no symbol, no member and no
parameter. -/
structure FailsUnnamed (here manifest : Path) (entry : Entry) : Prop where
  asSymbol : ∀ index, (readEntry here manifest index entry).result
    = .error (.shape manifest (.symbolUnnamed index))
  asMember : ∀ owner kind, (readMember manifest owner kind entry).result
    = .error (.shape manifest (.memberUnnamed kind owner))
  asParameter : ∀ owner method, readParameter manifest owner method entry
    = .error (.shape manifest (.parameterUnnamed owner method))

theorem nameOf_of_unnamed {manifest : Path} {missing : Defect} {entry : Entry}
    (h : entry.name? = none) :
  nameOf manifest missing entry = .error (.shape manifest missing)
  := by
  rw [nameOf, h]

theorem failsUnnamed_of_name? {here manifest : Path} {entry : Entry} (h : entry.name? = none) :
  FailsUnnamed here manifest entry where
  asSymbol index := by
    rw [readEntry, nameOf_of_unnamed h]
    rfl
  asMember owner kind := by
    rw [readMember, nameOf_of_unnamed h]
    rfl
  asParameter owner method := by
    rw [readParameter, nameOf_of_unnamed h]
    rfl

/-- The names of the symbols of a manifest.  A name that is missing or blank is a failure; every
other one is read, and leaves no name, no short name or a namespace with a separator at its end only
where it has nothing before, between or behind its separators. -/
theorem readValue_names (here manifest : Path) (v : Value) :
  (∀ s ∈ (readValue here manifest v).symbols, ∃ entry, IsSymbolEntry v entry ∧ AreNamesOf entry s)
    ∧ ∀ entry : Entry, entry.name? = none → FailsUnnamed here manifest entry
  := by
  constructor
  · intro s hs
    obtain ⟨entry, hentry, hsymbol⟩ := exists_of_mem_symbols hs
    exact ⟨entry, hentry, hsymbol.areNamesOf⟩
  · intro entry hname
    exact failsUnnamed_of_name? hname

/-- A symbol whose name is a separator. -/
def separatorItems : List Value := [.map [(.text "name", .text "\\")]]

/-- A symbol whose name is a separator has an empty name and is no failure. -/
theorem not_hasCompleteNames_separator :
  ¬∀ here manifest v, ∀ s ∈ (readValue here manifest v).symbols, s.HasCompleteNames
  := by
  intro h
  have hread : "" ∈ (readValue {} (.ofText "a.symbols.json")
      (.map [(.text "symbols", .list separatorItems)])).symbols.map Symbol.fullName := by
    decide
  obtain ⟨s, hs, hfull⟩ := List.mem_map.mp hread
  exact (h _ _ _ s hs).fullName hfull

/-- A symbol whose name has an empty part, with a constant whose name is a dollar sign. -/
def emptyPartItems : List Value :=
  let unnamed := .map [(.text "name", .text "$")]
  [.map [(.text "name", .text "App\\\\Cache"), (.text "constants", .list [unnamed])]]

theorem readValue_names_emptyPart :
  let entry : Entry := []
  (∃ s ∈ (readValue {} (.ofText "a.symbols.json") (.list emptyPartItems)).symbols,
      s.namespaceName = "App\\" ∧ s.shortName = "Cache"
        ∧ ∃ entry, IsSymbolEntry (.list emptyPartItems) entry ∧ AreNamesOf entry s)
    ∧ entry.name? = none ∧ FailsUnnamed {} (.ofText "a.symbols.json") entry
  := by
  have hread : ("App\\", "Cache") ∈ (readValue {} (.ofText "a.symbols.json")
      (.list emptyPartItems)).symbols.map fun s => (s.namespaceName, s.shortName) := by
    decide
  obtain ⟨s, hs, hnames⟩ := List.mem_map.mp hread
  obtain ⟨hnamespace, hshort⟩ := Prod.mk.inj hnames
  have hall := readValue_names {} (.ofText "a.symbols.json") (.list emptyPartItems)
  exact ⟨⟨s, hs, hnamespace, hshort, hall.1 s hs⟩, rfl, hall.2 [] rfl⟩

end Manifest

end DocTable
