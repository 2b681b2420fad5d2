import DocTable.Proofs.Export.Manifest
import DocTable.Proofs.Json.Reader

/-!
# The export is lossless

The JSON text of a snapshot is read as the value of its document, and exportable snapshots with the
same text are equal.  A catalog stays exportable whatever batches of exportable symbols it is given;
so a catalog that is filled from manifests is exportable.
-/

namespace DocTable

open Logged

namespace Catalog

variable {catalog : Catalog}

theorem isExportable_empty :
  Snapshot.IsExportable .empty
  where
  wellKeyed := by
    rintro name short s ⟨⟩
  symbol := by
    rintro name short s ⟨⟩

theorem isExportable_set (h : Snapshot.IsExportable catalog) {s : Symbol} (hs : s.IsExportable) :
  Snapshot.IsExportable (catalog.set s)
  where
  wellKeyed := by
    intro name short s' hfind
    rw [find?_set] at hfind
    split_ifs at hfind with hplace
    · rw [← Option.some.inj hfind, hplace]
    · apply h.wellKeyed name short s' hfind
  symbol := by
    intro name short s' hfind
    rw [find?_set] at hfind
    split_ifs at hfind with hplace
    · rwa [← Option.some.inj hfind]
    · apply h.symbol name short s' hfind

theorem isExportable_foldl_set (h : Snapshot.IsExportable catalog) {batch : List Symbol}
    (hbatch : ∀ s ∈ batch, s.IsExportable) :
  Snapshot.IsExportable (batch.foldl set catalog)
  := by
  induction batch generalizing catalog with
  | nil => exact h
  | cons s batch ih =>
    rw [List.forall_mem_cons] at hbatch
    apply ih (isExportable_set h hbatch.1) hbatch.2

/-- A batch leaves a catalog exportable, taken or refused. -/
theorem isExportable_after (h : Snapshot.IsExportable catalog) {batch : List Symbol}
    (hbatch : ∀ s ∈ batch, s.IsExportable) :
  Snapshot.IsExportable (catalog.after batch)
  := by
  rw [after, run_merge]
  cases catalog.conflict? .empty batch with
  | some conflict => exact h
  | none => exact isExportable_foldl_set h hbatch

theorem isExportable_ofRun {batches : List (List Symbol)}
    (h : ∀ batch ∈ batches, ∀ s ∈ batch, s.IsExportable) :
  Snapshot.IsExportable (ofRun batches)
  := by
  induction batches using List.reverseRecOn with
  | nil => exact isExportable_empty
  | append_singleton batches batch ih =>
    rw [ofRun, List.foldl_append]
    apply isExportable_after
    · apply ih
      intro batch hbatch
      apply h batch (List.mem_append_left _ hbatch)
    · apply h batch (by simp)

end Catalog

namespace Inspection

theorem ingest_gives {ε : Type} {catalog : Catalog} (h : Snapshot.IsExportable catalog)
    {batch : List Symbol} (hbatch : ∀ s ∈ batch, s.IsExportable) :
  (ingest catalog batch : Logged (Failure ε) Catalog).Gives Snapshot.IsExportable
  := by
  unfold ingest
  rw [Catalog.ingest_eq]
  cases catalog.conflict? .empty batch with
  | some conflict =>
    intro next hnext
    contradiction
  | none =>
    rintro _ ⟨⟩
    apply Catalog.isExportable_foldl_set h hbatch

/-- An inspection that reads manifests alone leaves a catalog exportable. -/
theorem run_gives {ε : Type} {setup : Setup ε} {loadYaml : Yaml.Loader}
    {fail : Manifest.Failure → ε} (hsetup : setup.introspectors = [.manifests loadYaml fail])
    (earlier : List Event) {catalog : Catalog}
    (h : Snapshot.IsExportable catalog) (target : String) (exclude : List String) :
  (run setup earlier catalog target exclude).Gives Snapshot.IsExportable
  := by
  unfold run
  extract_lets entered
  refine gives_bind fun place => (collect_gives hsetup _ exclude place).bind fun batch hbatch => ?_
  refine (ingest_gives h fun s hs => (hbatch s hs).isExportable).bind fun next hnext => ?_
  exact gives_bind fun _ => gives_pure hnext

end Inspection

namespace Export

theorem read_json (snapshot : Snapshot) :
  Json.read (json snapshot) = .ok (document snapshot).toValue
  := Json.Document.read_indented (within_document 981 snapshot)

/-- Exportable snapshots with the same text are equal. -/
theorem json_injOn {snapshot snapshot' : Snapshot} (h : snapshot.IsExportable)
    (h' : snapshot'.IsExportable) (hjson : json snapshot = json snapshot') :
  snapshot = snapshot'
  := by
  apply document_injOn h h'
  apply Json.Document.toValue_injective
  have hread := read_json snapshot
  rw [hjson, read_json, Except.ok.injEq] at hread
  exact hread.symm

/-- The JSON text of a snapshot is read as the value of its document, with all keys in their order.
No two exportable snapshots have the same text, and catalogs that are filled from manifests are
exportable. -/
theorem json_lossless :
  (∀ snapshot, Json.read (json snapshot) = .ok (document snapshot).toValue)
    ∧ (∀ snapshot snapshot' : Snapshot, snapshot.IsExportable → snapshot'.IsExportable →
      json snapshot = json snapshot' → snapshot = snapshot')
    ∧ ∀ batches, (∀ batch ∈ batches, ∀ s ∈ batch, s.IsFromManifest) →
      Snapshot.IsExportable (Catalog.ofRun batches)
  := by
  refine ⟨read_json, fun _ _ => json_injOn, ?_⟩
  intro batches h
  apply Catalog.isExportable_ofRun
  intro batch hbatch s hs
  apply (h batch hbatch s hs).isExportable

/-- A catalog of one class with a comment. -/
def commented (raw : String) : Catalog :=
  Catalog.set .empty {
    shortName := "Sum"
    fullName := "App\\Sum"
    namespaceName := "App"
    docBlock := .ofComment? (some raw) }

theorem isExportable_commented (raw : String) :
  Snapshot.IsExportable (commented raw)
  := by
  apply Catalog.isExportable_set Catalog.isExportable_empty
  constructor
  case docBlock => exact DocBlock.marksVariables_ofComment? (some raw)
  all_goals simp [IsSection, OrderedMap.values, OrderedMap.empty]

/-- Catalogs that differ in the markers of a parameter differ in their texts. -/
theorem json_variadic_ne_byReference :
  Snapshot.IsExportable (commented "/** @param int ...$n */")
    ∧ Snapshot.IsExportable (commented "/** @param int &$n */")
    ∧ json (commented "/** @param int ...$n */") ≠ json (commented "/** @param int &$n */")
  := by
  have hvariadic := isExportable_commented "/** @param int ...$n */"
  have hreference := isExportable_commented "/** @param int &$n */"
  refine ⟨hvariadic, hreference, ?_⟩
  intro hjson
  have heq := json_lossless.2.1 _ _ hvariadic hreference hjson
  exact absurd heq (by decide +kernel)

end Export

end DocTable
