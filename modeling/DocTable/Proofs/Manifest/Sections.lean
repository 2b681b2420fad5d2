import DocTable.Proofs.Manifest.Names

/-!
# Sections of symbols

The members of a symbol stand under their own names, in the order in which these appear among the
entries of a section, and of several entries for one name the last is the one that counts
(`IsSectionOf`).  This holds of every symbol that a manifest gives, whatever its value is, and so
does what else reports and exports take for granted (`readValue_isRecordOf`).
-/

namespace DocTable.Manifest

open Logged

variable {manifest : Path} {owner : String} {kind : MemberKind} {entries : List Entry}
  {read : List Member}

/-! ### Names of members -/

/-- The name that an entry gives a member: there are no dollar signs at its start. -/
def Entry.memberName? (entry : Entry) : Option String :=
  entry.name?.map fun name => String.ofList (stripLeading '$' name)

/-- The entry is the last one for a member with this name. -/
def IsLastFor (name : String) (entries : List Entry) (e : Entry) : Prop :=
  ∃ before after, entries = before ++ e :: after ∧ e.memberName? = some name
    ∧ ∀ e' ∈ after, e'.memberName? ≠ some name

theorem memberName?_of_readMember {e : Entry} {m : Member}
    (h : (readMember manifest owner kind e).result = .ok m) :
  e.memberName? = some m.name
  := by
  obtain ⟨name, hname, hm⟩ := (of_readMember h).name
  rw [Entry.memberName?, hname, hm, Option.map_some]

theorem map_memberName?
    (h : List.Forall₂ (fun e m => (readMember manifest owner kind e).result = .ok m)
      entries read) :
  entries.map Entry.memberName? = (read.map Member.name).map some
  := by
  induction h with
  | nil => rfl
  | cons hfirst _ ih =>
    rw [List.map_cons, List.map_cons, List.map_cons, memberName?_of_readMember hfirst, ih]

/-- A place among the results belongs to a place among the items. -/
theorem exists_of_forall₂_place {α β : Type} {R : α → β → Prop} {items : List α}
    {before after : List β} {b : β} (h : List.Forall₂ R items (before ++ b :: after)) :
  ∃ before' a after', items = before' ++ a :: after' ∧ R a b ∧ List.Forall₂ R after' after
  := by
  induction before generalizing items with
  | nil =>
    obtain ⟨a, after', ha, hafter, rfl⟩ := List.forall₂_cons_right_iff.mp h
    exact ⟨[], a, after', rfl, ha, hafter⟩
  | cons first before ih =>
    obtain ⟨a', items', -, hitems, rfl⟩ := List.forall₂_cons_right_iff.mp h
    obtain ⟨before', a, after', rfl, ha, hafter⟩ := ih hitems
    exact ⟨a' :: before', a, after', rfl, ha, hafter⟩

/-- A member that stands under a key is read from the last entry for this name. -/
theorem exists_last_of_get?
    (hread : List.Forall₂ (fun e m => (readMember manifest owner kind e).result = .ok m)
      entries read) {key : String} {m : Member}
    (hm : (OrderedMap.ofList (read.map fun m => (m.name, m))).get? key = some m) :
  key = m.name
    ∧ ∃ e, IsLastFor key entries e ∧ (readMember manifest owner kind e).result = .ok m
  := by
  obtain ⟨before, after, hplace, hafter⟩ := OrderedMap.exists_last_of_get?_ofList hm
  obtain ⟨before, rest, rfl, -, hrest⟩ := List.map_eq_append_iff.mp hplace
  obtain ⟨m, after, rfl, hentry, rfl⟩ := List.map_eq_cons_iff.mp hrest
  obtain ⟨rfl, rfl⟩ := Prod.mk.inj hentry
  obtain ⟨before', e, after', rfl, he, hread'⟩ := exists_of_forall₂_place hread
  -- a later entry for this name would have given a later member
  refine ⟨rfl, e, ⟨before', after', rfl, memberName?_of_readMember he, fun e' he' hname => ?_⟩, he⟩
  apply hafter
  have hmem : some m.name ∈ after'.map Entry.memberName? := hname ▸ List.mem_map_of_mem he'
  rw [map_memberName? hread'] at hmem
  simpa using hmem

/-! ### Sections -/

/-- The member may stand under the key in the section for a kind. -/
structure IsMemberAt (kind : MemberKind) (key : String) (m : Member) : Prop where
  key_eq : key = m.name
  noDollar : key.toList.head? ≠ some '$'
  isOfKind : m.kind = kind
  parameters : kind ≠ .method → m.parameters = []
  docBlock : ∃ comment, m.docBlock = .ofComment? comment

/-- The section has a member for each of the names that the entries give, in the order in which
these first appear, and it is read from the last entry for its name. -/
structure IsSectionOf (manifest : Path) (owner : String) (kind : MemberKind) (entries : List Entry)
    (members : OrderedMap String Member) : Prop where
  keys : ∃ names : List String,
    entries.map Entry.memberName? = names.map some ∧ members.keys = names.eraseDups
  members : ∀ key m, members.get? key = some m → IsMemberAt kind key m
    ∧ ∃ e, IsLastFor key entries e ∧ (readMember manifest owner kind e).result = .ok m

theorem IsMemberOf.isMemberAt {e : Entry} {m : Member} (h : IsMemberOf manifest owner kind e m) :
  IsMemberAt kind m.name m
  := by
  obtain ⟨name, -, hm⟩ := h.name
  refine ⟨rfl, ?_, h.isOfKind, fun hkind => (h.ofOther hkind).2, e.comment?, h.docBlock⟩
  rw [hm, String.toList_ofList]
  apply head?_stripLeading

theorem isSectionOf_of_readSection {part : Section} {entry : Entry}
    {members : OrderedMap String Member}
    (h : (readSection manifest owner part kind entry).result = .ok members) :
  ∃ entries, sectionEntries manifest owner part entry = .ok entries
    ∧ IsSectionOf manifest owner kind entries members
  := by
  unfold readSection at h
  obtain ⟨entries, hentries, h⟩ := result_bind_eq_ok_iff.mp h
  obtain ⟨read, hread, h⟩ := result_bind_eq_ok_iff.mp h
  obtain rfl := Except.ok.inj h
  replace hread := forall₂_of_forAll hread
  refine ⟨entries, hentries, ⟨_, map_memberName? hread, ?_⟩, fun key m hm => ?_⟩
  · rw [OrderedMap.keys_ofList, List.map_map]
    rfl
  · obtain ⟨rfl, e, he, hm⟩ := exists_last_of_get? hread hm
    exact ⟨(of_readMember hm).isMemberAt, e, he, hm⟩

/-! ### Symbols -/

/-- The symbol is read from the entry, and has what reports and exports take for granted. -/
structure IsRecordOf (manifest : Path) (entry : Entry) (s : Symbol) : Prop where
  sections : ∀ kind, ∃ entries, sectionEntries manifest s.fullName kind.part entry = .ok entries
    ∧ IsSectionOf manifest s.fullName kind entries (s.membersOf kind)
  docBlock : s.docBlock = .ofComment? entry.comment?
  parent : s.parent.toList.head? ≠ some '\\'
  interfaces : ∀ name ∈ s.interfaces, name.toList.head? ≠ some '\\'

theorem head?_fullName (name : String) :
  (fullName name).toList.head? ≠ some '\\'
  := by
  rw [fullName, String.toList_ofList]
  apply head?_stripLeading

theorem IsSymbolOf.isRecordOf {here : Path} {entry : Entry} {s : Symbol}
    (h : IsSymbolOf here manifest entry s) :
  IsRecordOf manifest entry s
  := by
  obtain ⟨parent, -, hparent⟩ := h.parent
  obtain ⟨interfaces, -, hinterfaces⟩ := h.interfaces
  refine ⟨fun kind => isSectionOf_of_readSection (h.readSection kind), h.docBlock, ?_, ?_⟩
  · rw [hparent]
    apply head?_fullName
  · rw [hinterfaces, List.forall_mem_map]
    exact fun name _ => head?_fullName name

/-- Every symbol of a manifest, whatever its value is, is a record of an entry. -/
theorem readValue_isRecordOf (here manifest : Path) (v : Value) {s : Symbol}
    (h : s ∈ (readValue here manifest v).symbols) :
  ∃ entry, IsSymbolEntry v entry ∧ IsRecordOf manifest entry s
  := by
  obtain ⟨entry, hentry, hs⟩ := exists_of_mem_symbols h
  exact ⟨entry, hentry, hs.isRecordOf⟩

/-- A class with three entries for its two properties. -/
def repeatedItems : List Value :=
  [.map [(.text "name", .text "Cache"), (.text "properties", .list [
    .map [(.text "name", .text "$pool"), (.text "default", .text "first")],
    .map [(.text "name", .text "ttl")],
    .map [(.text "name", .text " pool "), (.text "default", .text "last")]])]]

theorem readValue_isRecordOf_repeated :
  ∃ s ∈ (readValue {} (.ofText "a.symbols.json") (.list repeatedItems)).symbols,
    s.properties.entries.map (fun e => (e.1, e.2.defaultText)) = [("pool", "last"), ("ttl", "")]
      ∧ ∃ entry, IsSymbolEntry (.list repeatedItems) entry
        ∧ IsRecordOf (.ofText "a.symbols.json") entry s
  := by
  have hread : [("pool", "last"), ("ttl", "")] ∈ (readValue {} (.ofText "a.symbols.json")
      (.list repeatedItems)).symbols.map fun s =>
        s.properties.entries.map fun e => (e.1, e.2.defaultText) := by
    decide
  obtain ⟨s, hs, hproperties⟩ := List.mem_map.mp hread
  exact ⟨s, hs, hproperties, readValue_isRecordOf {} (.ofText "a.symbols.json") _ hs⟩

end DocTable.Manifest
