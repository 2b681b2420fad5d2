import DocTable.Markup.Entities
import DocTable.Proofs.Catalog.Run
import DocTable.Proofs.Export.Manifest
import DocTable.Proofs.Report.Documentation
import DocTable.Yaml.Load
import Mathlib.Data.List.Nodup
import Mathlib.Data.List.Perm.Basic
import Mathlib.Data.Prod.Basic

/-!
# When ids are distinct

The ids of a report are made of names alone, so they are distinct only as far as names are.  For a
catalog that is filled from manifests, `nodup_ids_iff` says when: no class is named like a
namespace, no two classes have one full name, and no class has two members of one name.  In
particular a constant, a property or a method of the same name share an id.

A colon would let the names run into each other, so it is left out of the names of namespaces and
classes.
-/

namespace DocTable

/-! ### Names -/

/-- Lists that are cut at a character fall into the same parts. -/
theorem append_cons_inj_of_not_mem {α : Type} {a : α} {xs ys as bs : List α} (hxs : a ∉ xs)
    (hys : a ∉ ys) (h : xs ++ a :: as = ys ++ a :: bs) :
  xs = ys ∧ as = bs
  := by
  obtain ⟨cs, rfl, hcs⟩ | ⟨cs, rfl, hcs⟩ := List.append_eq_append_iff.mp h
  · cases cs with
    | nil => simpa using hcs
    | cons c cs =>
      obtain rfl := (List.cons.inj hcs).1
      simp at hys
  · cases cs with
    | nil => simpa [eq_comm] using hcs
    | cons c cs =>
      obtain rfl := (List.cons.inj hcs).1
      simp at hxs

theorem Symbol.toList_qualifiedName (s : Symbol) :
  s.qualifiedName.toList
    = if s.namespaceName = "" then s.shortName.toList
      else s.namespaceName.toList ++ '\\' :: s.shortName.toList
  := by
  unfold Symbol.qualifiedName Report.qualifiedName
  split <;> simp

/-- The qualified name tells the namespace from the short name, which has no backslash. -/
theorem place_eq_of_qualifiedName_eq {s t : Symbol} (hs : '\\' ∉ s.shortName.toList)
    (ht : '\\' ∉ t.shortName.toList) (h : s.qualifiedName = t.qualifiedName) :
  s.place = t.place
  := by
  have hchars := congrArg String.toList h
  rw [Symbol.toList_qualifiedName, Symbol.toList_qualifiedName] at hchars
  split_ifs at hchars with hglobal hglobal' hglobal'
  · exact Prod.ext (hglobal.trans hglobal'.symm) (String.toList_inj.mp hchars)
  · simp [hchars] at hs
  · simp [← hchars] at ht
  · -- the cut is at the last backslash, which is the first one from the end
    have hreverse := congrArg List.reverse hchars
    simp only [List.reverse_append, List.reverse_cons, List.append_assoc, List.singleton_append]
      at hreverse
    have hparts := append_cons_inj_of_not_mem (by simpa using hs) (by simpa using ht) hreverse
    simp only [List.reverse_inj, String.toList_inj] at hparts
    exact Prod.ext hparts.2 hparts.1

/-- No name of the symbol but those of its members has a colon. -/
structure Symbol.HasNoColon (s : Symbol) : Prop where
  namespaceName : ':' ∉ s.namespaceName.toList
  shortName : ':' ∉ s.shortName.toList
  fullName : ':' ∉ s.fullName.toList

theorem Symbol.HasNoColon.qualifiedName {s : Symbol} (h : s.HasNoColon) :
  ':' ∉ s.qualifiedName.toList
  := by
  rw [Symbol.toList_qualifiedName]
  split
  · exact h.shortName
  · simpa using ⟨h.namespaceName, h.shortName⟩

theorem toList_memberAnchor (owner name : String) :
  (owner ++ "::" ++ name).toList = owner.toList ++ ':' :: ':' :: name.toList
  := by simp

/-! ### The symbols that are shown -/

namespace Snapshot

/-- The symbols that are shown: those with members. -/
def shown (snapshot : Snapshot) : List Symbol :=
  snapshot.pruned.values.flatMap OrderedMap.values

/-- The names of these symbols do not get mixed up. -/
structure HasDistinctNames (snapshot : Snapshot) : Prop where
  /-- No class is named like a namespace. -/
  namespaces : ∀ s ∈ snapshot.shown, ∀ t ∈ snapshot.shown, s.fullName ≠ t.namespaceName
  /-- No two classes have one full name. -/
  classes : ∀ s ∈ snapshot.shown, ∀ t ∈ snapshot.shown, s.fullName = t.fullName → s = t
  /-- No class has two members of one name. -/
  members : ∀ s ∈ snapshot.shown, (s.members.map (·.name)).Nodup

end Snapshot

namespace Catalog

variable {catalog : Catalog}

theorem mem_shown {s : Symbol} :
  s ∈ Snapshot.shown catalog
    ↔ ∃ e ∈ (Snapshot.pruned catalog).entries, ∃ e' ∈ e.2.entries, e'.2 = s
  := by
  rw [Snapshot.shown, List.mem_flatMap]
  constructor
  · rintro ⟨symbols, hsymbols, hs⟩
    obtain ⟨e, he, rfl⟩ := List.mem_map.mp hsymbols
    exact ⟨e, he, List.mem_map.mp hs⟩
  · rintro ⟨e, he, hs⟩
    exact ⟨e.2, List.mem_map_of_mem he, List.mem_map.mpr hs⟩

section

variable (hkeyed : catalog.WellKeyed)

include hkeyed

theorem place_of_mem_pruned {e : String × OrderedMap String Symbol}
    (he : e ∈ (Snapshot.pruned catalog).entries) {e' : String × Symbol} (he' : e' ∈ e.2.entries) :
  catalog.find? e.1 e'.1 = some e'.2 ∧ e'.2.place = (e.1, e'.1)
  := by
  obtain ⟨e, hmem, rfl⟩ := List.mem_map.mp (List.mem_filter.mp he).1
  exact hkeyed.place_eq hmem (List.mem_filter.mp he').1

/-- The namespaces that are shown are those of the symbols that are shown. -/
theorem mem_keys_pruned_iff {name : String} :
  name ∈ (Snapshot.pruned catalog).keys ↔ ∃ s ∈ Snapshot.shown catalog, s.namespaceName = name
  := by
  constructor
  · intro hname
    obtain ⟨e, he, rfl⟩ := List.mem_map.mp hname
    obtain ⟨s, hs⟩ := List.exists_mem_of_ne_nil _ (Report.members_of_mem_pruned he).1
    obtain ⟨e', he', rfl⟩ := List.mem_map.mp hs
    refine ⟨e'.2, mem_shown.mpr ⟨e, he, e', he', rfl⟩, ?_⟩
    exact congrArg Prod.fst (place_of_mem_pruned hkeyed he he').2
  · rintro ⟨s, hs, rfl⟩
    obtain ⟨e, he, e', he', rfl⟩ := mem_shown.mp hs
    have hplace := congrArg Prod.fst (place_of_mem_pruned hkeyed he he').2
    rw [show e'.2.namespaceName = e.1 from hplace]
    exact List.mem_map_of_mem he

/-- No two symbols that are shown have one place. -/
theorem nodup_places_shown :
  ((Snapshot.shown catalog).map Symbol.place).Nodup
  := by
  have hplaces : (Snapshot.shown catalog).map Symbol.place
      = (Snapshot.pruned catalog).entries.flatMap fun e => e.2.keys.map (e.1, ·) := by
    rw [Snapshot.shown, OrderedMap.values, List.flatMap_map, List.map_flatMap]
    apply List.flatMap_congr
    intro e he
    rw [OrderedMap.values, OrderedMap.keys, List.map_map, List.map_map]
    apply List.map_congr_left
    intro e' he'
    exact (place_of_mem_pruned hkeyed he he').2
  rw [hplaces, List.nodup_flatMap]
  constructor
  · intro e _
    exact e.2.nodup.map (Prod.mk_right_injective e.1)
  · apply (List.pairwise_map.mp (Snapshot.pruned catalog).nodup).imp
    intro e e' hne place hplace hplace'
    obtain ⟨short, -, rfl⟩ := List.mem_map.mp hplace
    obtain ⟨short', -, heq⟩ := List.mem_map.mp hplace'
    exact hne (congrArg Prod.fst heq).symm

end

/-- A symbol of a catalog comes from one of the batches. -/
theorem exists_batch_of_find? {batches : List (List Symbol)} {name short : String} {s : Symbol}
    (h : (ofRun batches).find? name short = some s) :
  ∃ batch ∈ batches, s ∈ batch
  := by
  have htaken (catalog : Catalog) : catalog.taken batches ⊆ batches := by
    clear h
    induction batches generalizing catalog with
    | nil => exact List.Subset.refl []
    | cons batch batches ih =>
      rw [taken]
      split
      · exact List.cons_subset_cons batch (ih _)
      · exact List.subset_cons_of_subset batch (ih _)
  rw [(reflects_ofRun batches).symbol] at h
  obtain ⟨batch, hbatch, hs⟩ := List.mem_flatten.mp
    (List.mem_reverse.mp (List.mem_of_find?_eq_some h))
  exact ⟨batch, htaken .empty hbatch, hs⟩

end Catalog

/-! ### Distinct anchors -/

namespace Snapshot

/-- The anchors of the namespaces, of the classes and of the members, one after another. -/
theorem perm_anchors (snapshot : Snapshot) :
  snapshot.pruned.anchors.Perm (snapshot.pruned.keys
    ++ (snapshot.shown.map (·.fullName) ++ snapshot.shown.flatMap Symbol.memberAnchors))
  := by
  have hsymbols : (snapshot.pruned.entries.flatMap fun e =>
      e.2.values.flatMap fun s => s.fullName :: s.memberAnchors)
        = snapshot.shown.flatMap fun s => s.fullName :: s.memberAnchors := by
    rw [shown, List.flatMap_assoc, OrderedMap.values, List.flatMap_map]
  apply (List.map_append_flatMap_perm snapshot.pruned.entries Prod.fst _).symm.trans
  rw [hsymbols]
  exact List.Perm.append_left _ (List.map_append_flatMap_perm _ _ _).symm

end Snapshot

namespace Catalog

variable {catalog : Catalog} (hkeyed : catalog.WellKeyed)
  (hshort : ∀ s ∈ Snapshot.shown catalog, '\\' ∉ s.shortName.toList)
  (hcolon : ∀ s ∈ Snapshot.shown catalog, s.HasNoColon)

include hkeyed hshort hcolon

/-- Members of two classes have distinct anchors. -/
theorem disjoint_memberAnchors {s t : Symbol} (hs : s ∈ Snapshot.shown catalog)
    (ht : t ∈ Snapshot.shown catalog) (hne : s ≠ t) :
  s.memberAnchors.Disjoint t.memberAnchors
  := by
  intro anchor hanchor hanchor'
  obtain ⟨m, -, rfl⟩ := List.mem_map.mp hanchor
  obtain ⟨m', -, heq⟩ := List.mem_map.mp hanchor'
  have hchars := congrArg String.toList heq
  rw [toList_memberAnchor, toList_memberAnchor] at hchars
  have howner := (append_cons_inj_of_not_mem (hcolon t ht).qualifiedName
    (hcolon s hs).qualifiedName hchars).1
  have hplace := place_eq_of_qualifiedName_eq (hshort t ht) (hshort s hs)
    (String.toList_inj.mp howner)
  exact hne (List.inj_on_of_nodup_map (nodup_places_shown hkeyed) hs ht hplace.symm)

omit hkeyed hshort hcolon in
/-- The anchors of the members of a class are as distinct as their names. -/
theorem nodup_memberAnchors_iff (s : Symbol) :
  s.memberAnchors.Nodup ↔ (s.members.map (·.name)).Nodup
  := by
  have hinjective : Function.Injective (s.qualifiedName ++ "::" ++ · : String → String) := by
    intro name name' h
    have hchars := congrArg String.toList h
    simp only [toList_memberAnchor] at hchars
    simpa [String.toList_inj] using hchars
  have hanchors : s.memberAnchors
      = (s.members.map (·.name)).map (s.qualifiedName ++ "::" ++ ·) := by
    rw [List.map_map]
    rfl
  rw [hanchors, List.nodup_map_iff hinjective]

theorem nodup_anchors_iff :
  (Snapshot.pruned catalog).anchors.Nodup ↔ Snapshot.HasDistinctNames catalog
  := by
  have hshown : (Snapshot.shown catalog).Nodup := .of_map _ (nodup_places_shown hkeyed)
  have hmembers : ((Snapshot.shown catalog).flatMap Symbol.memberAnchors).Nodup
      ↔ ∀ s ∈ Snapshot.shown catalog, (s.members.map (·.name)).Nodup := by
    rw [List.nodup_flatMap]
    simp only [nodup_memberAnchors_iff, and_iff_left_iff_imp]
    intro _
    exact hshown.imp_of_mem fun hs ht hne => disjoint_memberAnchors hkeyed hshort hcolon hs ht hne
  -- Only the anchor of a member has a colon.
  have hmember : ∀ anchor ∈ (Snapshot.shown catalog).flatMap Symbol.memberAnchors,
      ':' ∈ anchor.toList := by
    intro anchor hanchor
    obtain ⟨s, -, hanchor⟩ := List.mem_flatMap.mp hanchor
    obtain ⟨m, -, rfl⟩ := List.mem_map.mp hanchor
    simp
  rw [(Snapshot.perm_anchors catalog).nodup_iff, List.nodup_append, List.nodup_append, hmembers,
    List.nodup_map_iff_inj_on hshown]
  constructor
  · rintro ⟨-, ⟨hclasses, hnames, -⟩, hdisjoint⟩
    refine ⟨fun s hs t ht => ?_, hclasses, hnames⟩
    apply Ne.symm
    apply hdisjoint _ ((mem_keys_pruned_iff hkeyed).mpr ⟨t, ht, rfl⟩)
    exact List.mem_append_left _ (List.mem_map_of_mem hs)
  · intro h
    refine ⟨(Snapshot.pruned catalog).nodup, ⟨h.classes, h.members, ?_⟩, ?_⟩
    · rintro _ hname anchor hanchor rfl
      obtain ⟨s, hs, heq⟩ := List.mem_map.mp hname
      exact (hcolon s hs).fullName (heq ▸ hmember _ hanchor)
    · rintro _ hname anchor hanchor rfl
      obtain ⟨t, ht, heq⟩ := (mem_keys_pruned_iff hkeyed).mp hname
      obtain hanchor | hanchor := List.mem_append.mp hanchor
      · obtain ⟨s, hs, heq'⟩ := List.mem_map.mp hanchor
        exact h.namespaces s hs t ht (heq'.trans heq.symm)
      · exact (hcolon t ht).namespaceName (heq ▸ hmember _ hanchor)

end Catalog

namespace Report

open Markup

/-- The ids of the report of a catalog that is filled from manifests are distinct just if the names
of the symbols that are shown are. -/
theorem nodup_ids_iff [Escaping] {batches : List (List Symbol)}
    (hmanifest : ∀ batch ∈ batches, ∀ s ∈ batch, s.IsFromManifest)
    (hcolon : ∀ s ∈ Snapshot.shown (Catalog.ofRun batches), s.HasNoColon)
    {formatDoc : DocBlock → String} (hformat : ∀ block, HasIds [.fixed (formatDoc block)] []) :
  (ids (Table.build (Catalog.ofRun batches) formatDoc)).Nodup
    ↔ Snapshot.HasDistinctNames (Catalog.ofRun batches)
  := by
  have hkeyed := Catalog.wellKeyed_ofRun batches
  have hshort : ∀ s ∈ Snapshot.shown (Catalog.ofRun batches), '\\' ∉ s.shortName.toList := by
    intro s hs
    obtain ⟨e, he, e', he', rfl⟩ := Catalog.mem_shown.mp hs
    obtain ⟨batch, hbatch, hmem⟩ :=
      Catalog.exists_batch_of_find? (Catalog.place_of_mem_pruned hkeyed he he').1
    exact (hmanifest batch hbatch _ hmem).not_mem_shortName
  rw [ids_build hformat, List.nodup_map_iff escapeText_injective]
  exact Catalog.nodup_anchors_iff hkeyed hshort hcolon

/-! ### A class with a property and a method -/

/-- The manifest of a class with a property and a method. -/
def counterManifest (method : String) : String :=
  "symbols:\n- name: App\\Counter\n  properties:\n    count:\n  methods:\n    " ++ method ++ ":\n"

/-- The symbols of the manifest, from a disk where it is the only file. -/
def counterSymbols (method : String) : List Symbol :=
  let contents := Text.Utf8.encode (counterManifest method)
  let disk : Disk := {
    tree := .directory [("counter.symbols.yml", .file contents)]
    here := { root := .absolute } }
  (Manifest.read Yaml.loader disk (.ofText "counter.symbols.yml")).symbols

/-- The class of the manifest. -/
def counter (method : String) : Symbol where
  shortName := "Counter"
  fullName := "App\\Counter"
  namespaceName := "App"
  sourceFile := "/counter.symbols.yml"
  properties := OrderedMap.empty.put "count" { name := "count", kind := .property }
  methods := OrderedMap.empty.put method { name := method, kind := .method }

theorem isFromManifest_counterSymbols (method : String) :
  ∀ batch ∈ [counterSymbols method], ∀ s ∈ batch, s.IsFromManifest
  := by
  rw [List.forall_mem_singleton]
  exact fun s hs => ⟨_, _, _, s, hs, .inl rfl⟩

theorem counterSymbols_reset :
  counterSymbols "reset" = [counter "reset"]
  := by decide +kernel

theorem counterSymbols_count :
  counterSymbols "count" = [counter "count"]
  := by decide +kernel

/-- Members of different names have different ids. -/
theorem nodup_ids_reset :
  (∀ batch ∈ [counterSymbols "reset"], ∀ s ∈ batch, s.IsFromManifest)
    ∧ (∀ s ∈ Snapshot.shown (Catalog.ofRun [counterSymbols "reset"]), s.HasNoColon)
    ∧ (∀ block : DocBlock, HasIds [.fixed (block.toHtml plainHtml)] [])
    ∧ (ids (Table.build (Catalog.ofRun [counterSymbols "reset"]) (DocBlock.toHtml plainHtml))).Nodup
  := by
  have hmanifest := isFromManifest_counterSymbols "reset"
  have hformat := DocBlock.hasIds_toHtml hasIds_plainHtml
  have hshown : Snapshot.shown (Catalog.ofRun [counterSymbols "reset"]) = [counter "reset"] := by
    rw [counterSymbols_reset]
    decide +kernel
  have hcolon : ∀ s ∈ Snapshot.shown (Catalog.ofRun [counterSymbols "reset"]), s.HasNoColon := by
    rw [hshown, List.forall_mem_singleton]
    exact ⟨by decide, by decide, by decide⟩
  refine ⟨hmanifest, hcolon, hformat, (nodup_ids_iff hmanifest hcolon hformat).mpr ?_⟩
  constructor
  all_goals simp only [hshown, List.forall_mem_singleton]
  · decide
  · exact fun _ => trivial
  · decide

/-- A property and a method of one name share their id. -/
theorem not_nodup_ids_count :
  (∀ batch ∈ [counterSymbols "count"], ∀ s ∈ batch, s.IsFromManifest)
    ∧ ¬(ids (Table.build (Catalog.ofRun [counterSymbols "count"])
      (DocBlock.toHtml plainHtml))).Nodup
  := by
  use isFromManifest_counterSymbols "count"
  rw [ids_build (DocBlock.hasIds_toHtml hasIds_plainHtml), counterSymbols_count]
  decide +kernel

end Report

end DocTable
