import DocTable.Inspection
import DocTable.Proofs.Comment.TagBody
import DocTable.Proofs.Export.Document
import DocTable.Proofs.Grouping
import DocTable.Proofs.Manifest.Reading

/-!
# Symbols of manifests

A symbol that is read from a manifest is exportable: its members have the kind of the section that
they are read from, and a marker is read only together with a variable.  Where manifests alone are
read, an inspection collects such symbols and no others.
-/

namespace DocTable

open Comment Logged

/-! ### Comments -/

/-- A tag that is read marks its variable as it stands in the text. -/
theorem Tag.marksVariable_ofBody (name : String) (body : List Char) :
  (Tag.ofBody name body).MarksVariable
  := by
  obtain ⟨tag, htag, h⟩ | ⟨tag, -, h⟩ | h := Tag.ofBody_cases name body
  · rw [h]
    intro hvariable
    have hmarker := mt (ParamTag.variableName_ne_empty htag) (not_not.mpr hvariable)
    simpa using hmarker
  · rw [h]
    trivial
  · rw [h]
    trivial

/-- All tags of a comment that is read do. -/
theorem DocBlock.marksVariables_ofComment? (raw : Option String) :
  (DocBlock.ofComment? raw).MarksVariables
  := by
  cases raw with
  | none =>
    intro tag htag
    contradiction
  | some raw =>
    intro tag htag
    obtain ⟨group, hgroup, htag⟩ := List.mem_flatten.mp htag
    obtain ⟨⟨kind, group⟩, hentry, rfl⟩ := List.mem_map.mp hgroup
    have hitem := (groups_groupBy _ _).mem_items hentry htag
    obtain ⟨chunk, -, rfl⟩ := List.mem_map.mp hitem
    apply Tag.marksVariable_ofBody

namespace Manifest

variable {here manifest : Path} {owner : String} {kind : MemberKind} {entry : Entry}

/-! ### Symbols -/

/-- A member that is read has the fields of its kind. -/
theorem IsMemberOf.fits {m : Member} (h : IsMemberOf manifest owner kind entry m) :
  m.Fits kind
  := by
  refine ⟨h.isOfKind, ?_⟩
  rw [h.docBlock]
  apply DocBlock.marksVariables_ofComment?

/-- A section that is read has members of its kind under their names. -/
theorem isSection_of_readSection {part : Section} {members : OrderedMap String Member}
    (h : (readSection manifest owner part kind entry).result = .ok members) :
  IsSection kind members
  := by
  intro m hm
  obtain ⟨e, -, hmember⟩ := exists_of_readSection h m hm
  exact hmember.fits

/-- A symbol that is read can be exported without a loss. -/
theorem IsSymbolOf.isExportable {s : Symbol} (h : IsSymbolOf here manifest entry s) :
  s.IsExportable
  := by
  refine ⟨?_, isSection_of_readSection h.constants, isSection_of_readSection h.properties,
    isSection_of_readSection h.methods⟩
  rw [h.docBlock]
  apply DocBlock.marksVariables_ofComment?

section

variable (loadYaml : Yaml.Loader) (disk : Disk) (manifest : Path)

/-- All symbols of a manifest can be exported without a loss, whatever reads its text. -/
theorem isExportable_read :
  ∀ s ∈ (read loadYaml disk manifest).symbols, s.IsExportable
  := by
  intro s hs
  obtain ⟨entry, hsymbol⟩ := exists_of_mem_read hs
  exact hsymbol.isExportable

/-- A short name is what follows the last backslash. -/
theorem not_mem_splitFullName (cs : List Char) :
  '\\' ∉ (splitFullName cs).2
  := by
  rw [splitFullName, List.mem_reverse]
  intro hmem
  simpa using List.mem_takeWhile_imp hmem

/-- The short name of a symbol of a manifest has no separators. -/
theorem not_mem_shortName_of_mem_read :
  ∀ s ∈ (read loadYaml disk manifest).symbols, '\\' ∉ s.shortName.toList
  := by
  intro s hs
  obtain ⟨entry, hsymbol⟩ := exists_of_mem_read hs
  obtain ⟨name, -, -, hshort, -⟩ := hsymbol.names
  rw [hshort, String.toList_ofList]
  apply not_mem_splitFullName

/-- The reader of manifests gives the symbols of a manifest. -/
theorem inspect_gives {ε : Type} (fail : Failure → ε) :
  ((Introspector.manifests loadYaml fail).inspect disk manifest).Gives
    fun found => ∀ s ∈ found, s ∈ (read loadYaml disk manifest).symbols
  := by
  apply Gives.mapError
  intro found hfound s hs
  unfold Reading.toLogged at hfound
  dsimp only at hfound
  split at hfound
  · rwa [Except.ok.inj hfound]
  · contradiction

end

end Manifest

/-- It does not matter where the source file of a symbol is named from. -/
theorem Symbol.IsExportable.relativeTo {s : Symbol} (h : s.IsExportable) (base : Path) :
  (s.relativeTo base).IsExportable
  := by
  unfold Symbol.relativeTo
  extract_lets source
  split
  · split
    · exact ⟨h.docBlock, h.constants, h.properties, h.methods⟩
    · exact h
  · exact h

/-- A symbol of a manifest, its source file named as it is read or from a directory on. -/
def Symbol.IsFromManifest (s : Symbol) : Prop :=
  ∃ loadYaml disk manifest, ∃ r ∈ (Manifest.read loadYaml disk manifest).symbols,
    s = r ∨ ∃ base, s = r.relativeTo base

/-- A symbol of a manifest can be exported without a loss, wherever its file is named from. -/
theorem Symbol.IsFromManifest.isExportable {s : Symbol} (h : s.IsFromManifest) :
  s.IsExportable
  := by
  obtain ⟨loadYaml, disk, manifest, r, hr, rfl | ⟨base, rfl⟩⟩ := h
  · apply Manifest.isExportable_read loadYaml disk manifest _ hr
  · apply (Manifest.isExportable_read loadYaml disk manifest r hr).relativeTo

/-- The name of a symbol is the same wherever its file is named from. -/
theorem Symbol.shortName_relativeTo (s : Symbol) (base : Path) :
  (s.relativeTo base).shortName = s.shortName
  := by
  unfold Symbol.relativeTo
  extract_lets source
  split
  · split <;> rfl
  · rfl

/-- The short name of a symbol of a manifest names no namespace. -/
theorem Symbol.IsFromManifest.not_mem_shortName {s : Symbol} (h : s.IsFromManifest) :
  '\\' ∉ s.shortName.toList
  := by
  obtain ⟨loadYaml, disk, manifest, r, hr, rfl | ⟨base, rfl⟩⟩ := h
  · exact Manifest.not_mem_shortName_of_mem_read loadYaml disk manifest _ hr
  · rw [Symbol.shortName_relativeTo]
    exact Manifest.not_mem_shortName_of_mem_read loadYaml disk manifest r hr

namespace Inspection

variable {ε : Type} {setup : Setup ε} {loadYaml : Yaml.Loader} {fail : Manifest.Failure → ε}

/-- The built-in introspector gives symbols of manifests only. -/
theorem fileSymbols_gives (h : setup.introspectors = [.manifests loadYaml fail])
    (earlier : List Event) (file : Path) :
  (fileSymbols setup earlier file).Gives fun batch => ∀ s ∈ batch, s.IsFromManifest
  := by
  unfold fileSymbols
  extract_lets disk withFound
  have hfound (found : List Symbol)
      (hfound : ∀ s ∈ found, s ∈ (Manifest.read loadYaml disk file).symbols) :
      (withFound found).Gives fun batch => ∀ s ∈ batch, s.IsFromManifest := by
    refine gives_bind fun _ => gives_pure fun s hs => ?_
    obtain ⟨r, hr, rfl⟩ := List.mem_map.mp hs
    exact ⟨loadYaml, disk, file, r, hfound r hr, .inr ⟨_, rfl⟩⟩
  split
  case h_1 i hi =>
    rw [h] at hi
    obtain rfl := List.mem_singleton.mp (List.mem_of_find?_eq_some hi)
    exact ((Manifest.inspect_gives loadYaml disk file fail).mapError _).bind hfound
  case h_2 =>
    refine Gives.bind (gives_pure ?_) hfound
    simp

/-- Where manifests alone are read, an inspection collects symbols of manifests. -/
theorem collect_gives (h : setup.introspectors = [.manifests loadYaml fail]) (earlier : List Event)
    (exclude : List String) (target : Path) :
  (collect setup earlier exclude target).Gives fun batch => ∀ s ∈ batch, s.IsFromManifest
  := by
  unfold collect
  refine gives_bind fun files => ?_
  refine (gives_forAllAfter (fileSymbols_gives h) earlier files).bind fun found hfound => ?_
  apply gives_pure
  intro s hs
  obtain ⟨batch, hbatch, hs⟩ := List.mem_flatten.mp hs
  apply hfound batch hbatch s hs

end Inspection

end DocTable
