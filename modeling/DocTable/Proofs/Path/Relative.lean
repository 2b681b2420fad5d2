import DocTable.Inspection
import DocTable.Proofs.Path.Reading

/-!
# Source files named from a directory

A path lies at or below a directory when its components begin with those of the directory
(`IsBelow`).  The source file of a symbol that lies there is named by a relative path, which leads
back to it from the directory, and every other symbol stays as it is (`relativeTo_namedFrom`).
-/

namespace DocTable

namespace Path

variable {p q base : Path}

/-- What a path starts from, if it is absolute, and its names. -/
def components (p : Path) : List String :=
  if p.isAbsolute then p.root.text :: p.names else p.names

/-- The path is absolute and begins with the components of `base`. -/
def IsBelow (base p : Path) : Prop :=
  p.isAbsolute ∧ base.components <+: p.components

/-! ### Below a directory -/

theorem Root.text_injective {root other : Root} (h : root.text = other.text) :
  root = other
  := by
  revert h
  cases root <;> cases other <;> decide

theorem relativeTo?_eq_some_iff :
  p.relativeTo? base = some q
    ↔ q.root = .relative ∧ p = { root := base.root, names := base.names ++ q.names }
  := by
  rw [relativeTo?]
  constructor
  · intro h
    split at h
    case isTrue hprefix =>
      obtain ⟨hroot, hnames⟩ := hprefix
      obtain rfl := Option.some.inj h
      rw [List.isPrefixOf_iff_prefix] at hnames
      rw [← hroot, List.prefix_iff_eq_append.mp hnames]
      exact ⟨rfl, rfl⟩
    case isFalse => contradiction
  · rintro ⟨hroot, rfl⟩
    rw [if_pos ⟨rfl, by simp⟩, List.drop_left, ← hroot]

theorem isBelow_iff (hbase : base.isAbsolute) :
  IsBelow base p ↔ ∃ q, p.relativeTo? base = some q
  := by
  simp only [relativeTo?_eq_some_iff]
  rw [IsBelow, components, if_pos hbase]
  constructor
  · rintro ⟨hp, hprefix⟩
    rw [components, if_pos hp, List.cons_prefix_cons] at hprefix
    obtain ⟨hroot, names, hnames⟩ := hprefix
    refine ⟨{ names }, rfl, ?_⟩
    rw [Root.text_injective hroot, hnames]
  · rintro ⟨q, -, rfl⟩
    have hp : isAbsolute { root := base.root, names := base.names ++ q.names } := hbase
    refine ⟨hp, ?_⟩
    rw [components, if_pos hp, List.cons_prefix_cons]
    exact ⟨rfl, List.prefix_append _ _⟩

theorem join_of_relative (hq : q.root = .relative) :
  base.join q = { root := base.root, names := base.names ++ q.names }
  := by
  rw [join, isAbsolute, if_neg (by simp [hq])]

/-- A path from a directory to a path that was read is read back from its text. -/
theorem ofText_text_of_relativeTo? {s : String} (h : (ofText s).relativeTo? base = some q) :
  ofText q.text = q
  := by
  obtain ⟨hrelative, hsource⟩ := relativeTo?_eq_some_iff.mp h
  obtain ⟨root, names⟩ := q
  obtain rfl : root = .relative := hrelative
  apply ofText_text
  intro name hname
  apply isName_of_mem_ofText (s := s)
  rw [hsource]
  exact List.mem_append_right _ hname

end Path

namespace Symbol

open DocTable.Path

/-- How the symbol `moved` comes from `s` when source files are named from the directory `base`. -/
structure NamedFrom (base : Path) (s moved : Symbol) : Prop where
  changes_iff : moved.sourceFile ≠ s.sourceFile ↔ IsBelow base (.ofText s.sourceFile)
  /-- The new path leads back. -/
  below : IsBelow base (.ofText s.sourceFile) →
    ¬(Path.ofText moved.sourceFile).isAbsolute
      ∧ base.join (.ofText moved.sourceFile) = .ofText s.sourceFile
  outside : ¬IsBelow base (.ofText s.sourceFile) → moved = s
  /-- All other fields are the same. -/
  others : { moved with sourceFile := s.sourceFile } = s
  again : moved.relativeTo base = moved

variable {base : Path} {s : Symbol}

theorem relativeTo_of_not_isBelow (hbase : base.isAbsolute)
    (h : ¬IsBelow base (.ofText s.sourceFile)) :
  s.relativeTo base = s
  := by
  unfold relativeTo
  extract_lets source
  split
  case isTrue =>
    split
    case h_1 short hshort => exact absurd ((isBelow_iff hbase).mpr ⟨short, hshort⟩) h
    case h_2 => rfl
  case isFalse => rfl

theorem relativeTo_of_isBelow (h : IsBelow base (.ofText s.sourceFile)) {short : Path}
    (hshort : (Path.ofText s.sourceFile).relativeTo? base = some short) :
  s.relativeTo base = { s with sourceFile := short.text }
  := by
  have hne : s.sourceFile ≠ "" := by
    intro hempty
    have habsolute := h.1
    rw [hempty] at habsolute
    contradiction
  rw [relativeTo, if_pos ⟨hne, h.1⟩, hshort]

/-- Source files at or below a directory are named from there on, by paths that lead back to them
and stay as they are when it is done again; all else about the symbols is the same. -/
theorem relativeTo_namedFrom (hbase : base.isAbsolute) (s : Symbol) :
  NamedFrom base s (s.relativeTo base)
  := by
  by_cases h : IsBelow base (.ofText s.sourceFile)
  case neg =>
    have hsame := relativeTo_of_not_isBelow hbase h
    constructor
    case changes_iff => simp [hsame, h]
    case below => exact fun hbelow => absurd hbelow h
    case outside => exact fun _ => hsame
    case others => rw [hsame]
    case again => rw [hsame, hsame]
  case pos =>
    obtain ⟨short, hshort⟩ := (isBelow_iff hbase).mp h
    obtain ⟨hrelative, hsource⟩ := relativeTo?_eq_some_iff.mp hshort
    have hmoved := relativeTo_of_isBelow h hshort
    have hread : Path.ofText short.text = short := ofText_text_of_relativeTo? hshort
    have hnot : ¬(Path.ofText short.text).isAbsolute := by
      rw [hread, isAbsolute, hrelative]
      decide
    rw [hmoved]
    constructor
    case changes_iff =>
      refine ⟨fun _ => h, fun _ (hsame : short.text = s.sourceFile) => hnot ?_⟩
      rw [hsame]
      exact h.1
    case below =>
      intro _
      refine ⟨hnot, ?_⟩
      rw [hread, hsource, join_of_relative hrelative]
    case outside => exact fun hout => absurd h hout
    case others => rfl
    case again => exact relativeTo_of_not_isBelow hbase fun hbelow => hnot hbelow.1

/-- The directory of a project. -/
def projectBase : Path := .ofText "/srv/app"

/-- A symbol with a source file. -/
def symbolIn (sourceFile : String) : Symbol where
  shortName := "Cache"
  fullName := "Cache"
  sourceFile := sourceFile

theorem relativeTo_namedFrom_project :
  projectBase.isAbsolute
    ∧ NamedFrom projectBase (symbolIn "/srv/app//lib/../Cache.x") (symbolIn "lib/../Cache.x")
    ∧ NamedFrom projectBase (symbolIn "/srv/app") (symbolIn ".")
    ∧ NamedFrom projectBase (symbolIn "/srv/app2/Cache.x") (symbolIn "/srv/app2/Cache.x")
  := by
  have hbase : projectBase.isAbsolute := by decide
  have hinside : (symbolIn "/srv/app//lib/../Cache.x").relativeTo projectBase
      = symbolIn "lib/../Cache.x" := by
    decide
  have hitself : (symbolIn "/srv/app").relativeTo projectBase = symbolIn "." := by
    decide
  have houtside : (symbolIn "/srv/app2/Cache.x").relativeTo projectBase
      = symbolIn "/srv/app2/Cache.x" := by
    decide
  refine ⟨hbase, ?_, ?_, ?_⟩
  · have hnamed := relativeTo_namedFrom hbase (symbolIn "/srv/app//lib/../Cache.x")
    rwa [hinside] at hnamed
  · have hnamed := relativeTo_namedFrom hbase (symbolIn "/srv/app")
    rwa [hitself] at hnamed
  · have hnamed := relativeTo_namedFrom hbase (symbolIn "/srv/app2/Cache.x")
    rwa [houtside] at hnamed

end Symbol

end DocTable
