import DocTable.Proofs.Logged
import DocTable.Proofs.Manifest.Failures
import DocTable.Proofs.OrderedMap

/-!
# What is read from an entry

A parameter, a member and a symbol that are read from an entry say what its fields say
(`readParameter_eq_ok_iff`, `of_readMember`, `of_readEntry`).  Each of the symbols of a manifest is
read from the entry of an item (`exists_of_mem_symbols`), and each of its members from an entry of a
section of it (`IsSymbolOf.exists_of_mem_members`).
-/

namespace DocTable

/-- The section for the members of a kind. -/
def MemberKind.part : MemberKind → Manifest.Section
  | .constant => .constants
  | .property => .properties
  | .method => .methods

/-- The members of a kind that the symbol declares, under their names. -/
def Symbol.membersOf (s : Symbol) : MemberKind → OrderedMap String Member
  | .constant => s.constants
  | .property => s.properties
  | .method => s.methods

namespace Manifest

open Logged

variable {manifest : Path} {owner : String} {entry : Entry}

/-! ### Steps -/

theorem orFail_eq_ok_iff {α : Type} {printed : Except Unprintable α} {a : α} :
  orFail printed = .ok a ↔ printed = .ok a
  := mapError_eq_ok_iff

theorem nameOf_eq_ok_iff {missing : Defect} {name : List Char} :
  nameOf manifest missing entry = .ok name ↔ entry.name? = some name
  := by
  unfold nameOf
  split
  case h_1 found hfound => rw [hfound, Except.ok.injEq, Option.some.injEq]
  case h_2 hnone =>
    constructor
    · intro h
      contradiction
    · intro h
      rw [hnone] at h
      contradiction

theorem lift_eq_ok_iff {α : Type} {r : Except Failure α} {a : α} :
  (liftM r : Logged Failure α).result = .ok a ↔ r = .ok a
  := Iff.rfl

/-- The results are those of the items, in their order. -/
theorem forall₂_of_forAll {α β : Type} {f : α → Logged Failure β} {items : List α} {bs : List β}
    (h : (forAll f items).result = .ok bs) :
  List.Forall₂ (fun a b => (f a).result = .ok b) items bs
  := by
  induction items generalizing bs with
  | nil =>
    obtain rfl := Except.ok.inj h
    exact .nil
  | cons a items ih =>
    rw [forAll] at h
    obtain ⟨first, hfirst, h⟩ := result_bind_eq_ok_iff.mp h
    obtain ⟨rest, hrest, h⟩ := result_bind_eq_ok_iff.mp h
    obtain rfl := Except.ok.inj h
    exact .cons hfirst (ih hrest)

/-! ### Members -/

/-- The parameter says what the fields of the entry say. -/
structure IsParameterOf (entry : Entry) (p : Parameter) : Prop where
  name : ∃ name, entry.name? = some name ∧ p.name = String.ofList (stripLeading '$' name)
  type : entry.type = .ok p.type
  defaultText : entry.defaultText = .ok p.defaultText

theorem readParameter_eq_ok_iff {method : String} {p : Parameter} :
  readParameter manifest owner method entry = .ok p ↔ IsParameterOf entry p
  := by
  unfold readParameter
  constructor
  · intro h
    obtain ⟨name, hname, h⟩ := exists_of_bind_eq_ok h
    obtain ⟨type, htype, h⟩ := exists_of_bind_eq_ok h
    obtain ⟨defaultText, hdefault, h⟩ := exists_of_bind_eq_ok h
    obtain rfl := Except.ok.inj h
    exact ⟨⟨name, nameOf_eq_ok_iff.mp hname, rfl⟩, orFail_eq_ok_iff.mp htype,
      orFail_eq_ok_iff.mp hdefault⟩
  · rintro ⟨⟨name, hname, hp⟩, htype, hdefault⟩
    obtain ⟨_, type, defaultText⟩ := p
    obtain rfl := hp
    rw [nameOf_eq_ok_iff.mpr hname, htype, hdefault]
    rfl

/-- The parameters are read from the entries of the section for them, in their order. -/
def AreParametersOf (manifest : Path) (owner : String) (entry : Entry) (ps : List Parameter) :
    Prop :=
  ∃ entries, sectionEntries manifest owner .parameters entry = .ok entries
    ∧ List.Forall₂ IsParameterOf entries ps

theorem areParametersOf_of_readParameters {method : String} {ps : List Parameter}
    (h : readParameters manifest owner method entry = .ok ps) :
  AreParametersOf manifest owner entry ps
  := by
  unfold readParameters at h
  obtain ⟨entries, hentries, h⟩ := exists_of_bind_eq_ok h
  use entries, hentries
  exact (forall₂_of_mapM h).imp fun _ _ hread => readParameter_eq_ok_iff.mp hread

/-- The member says what the fields of the entry say.  A method has parameters and no default, and
another member a default and no parameters. -/
structure IsMemberOf (manifest : Path) (owner : String) (kind : MemberKind) (entry : Entry)
    (m : Member) : Prop where
  name : ∃ name, entry.name? = some name ∧ m.name = String.ofList (stripLeading '$' name)
  isOfKind : m.kind = kind
  modifiers : entry.wordsOf "modifiers" = .ok m.modifiers
  type : entry.type = .ok m.type
  docBlock : m.docBlock = .ofComment? entry.comment?
  ofMethod : kind = .method → m.defaultText = "" ∧ AreParametersOf manifest owner entry m.parameters
  ofOther : kind ≠ .method → entry.defaultText = .ok m.defaultText ∧ m.parameters = []

theorem of_readMember {kind : MemberKind} {m : Member}
    (h : (readMember manifest owner kind entry).result = .ok m) :
  IsMemberOf manifest owner kind entry m
  := by
  unfold readMember at h
  obtain ⟨name, hname, h⟩ := result_bind_eq_ok_iff.mp h
  rw [lift_eq_ok_iff, nameOf_eq_ok_iff] at hname
  extract_lets withParameters at h
  have hparameters : ∃ parameters, (withParameters parameters).result = .ok m
      ∧ (kind = .method → AreParametersOf manifest owner entry parameters)
      ∧ (kind ≠ .method → parameters = []) := by
    split at h
    case isTrue hkind =>
      obtain ⟨parameters, hread, h⟩ := result_bind_eq_ok_iff.mp h
      exact ⟨parameters, h, fun _ => areParametersOf_of_readParameters hread, fun hne =>
        absurd hkind hne⟩
    case isFalse hkind => exact ⟨[], h, fun heq => absurd heq hkind, fun _ => rfl⟩
  clear h
  obtain ⟨parameters, h, hmethod, hother⟩ := hparameters
  obtain ⟨modifiers, hmodifiers, h⟩ := result_bind_eq_ok_iff.mp h
  obtain ⟨type, htype, h⟩ := result_bind_eq_ok_iff.mp h
  rw [lift_eq_ok_iff, orFail_eq_ok_iff] at hmodifiers htype
  extract_lets withDefault at h
  have hdefault : ∃ defaultText, (withDefault defaultText).result = .ok m
      ∧ (kind = .method → defaultText = "")
      ∧ (kind ≠ .method → entry.defaultText = .ok defaultText) := by
    split at h
    case isTrue hkind => exact ⟨"", h, fun _ => rfl, fun hne => absurd hkind hne⟩
    case isFalse hkind =>
      obtain ⟨defaultText, hread, h⟩ := result_bind_eq_ok_iff.mp h
      exact ⟨defaultText, h, fun heq => absurd heq hkind, fun _ => orFail_eq_ok_iff.mp hread⟩
  clear h
  obtain ⟨defaultText, h, hnoDefault, hread⟩ := hdefault
  obtain ⟨docBlock, hdocBlock, h⟩ := result_bind_eq_ok_iff.mp h
  obtain rfl := Except.ok.inj hdocBlock
  obtain rfl := Except.ok.inj h
  exact {
    name := ⟨name, hname, rfl⟩
    isOfKind := rfl
    modifiers := hmodifiers
    type := htype
    docBlock := rfl
    ofMethod := fun hkind => ⟨hnoDefault hkind, hmethod hkind⟩
    ofOther := fun hkind => ⟨hread hkind, hother hkind⟩ }

/-- Each parameter of a member is read from an entry of the section for them. -/
theorem IsMemberOf.exists_of_mem_parameters {kind : MemberKind} {m : Member}
    (h : IsMemberOf manifest owner kind entry m) :
  ∀ p ∈ m.parameters, ∃ q, IsListedIn entry .parameters q ∧ IsParameterOf q p
  := by
  intro p hp
  by_cases hkind : kind = .method
  · obtain ⟨-, entries, hentries, hread⟩ := h.ofMethod hkind
    obtain ⟨q, hq, hparameter⟩ := exists_of_mem_forall₂ hread hp
    exact ⟨q, isListedIn_of_mem hentries hq, hparameter⟩
  · rw [(h.ofOther hkind).2] at hp
    contradiction

/-- The members of a section are read from its entries. -/
theorem exists_of_readSection {part : Section} {kind : MemberKind}
    {members : OrderedMap String Member}
    (h : (readSection manifest owner part kind entry).result = .ok members) :
  ∀ m ∈ members.values, ∃ e, IsListedIn entry part e ∧ IsMemberOf manifest owner kind e m
  := by
  unfold readSection at h
  obtain ⟨entries, hentries, h⟩ := result_bind_eq_ok_iff.mp h
  obtain ⟨read, hread, h⟩ := result_bind_eq_ok_iff.mp h
  obtain rfl := Except.ok.inj h
  intro m hm
  obtain ⟨e, he, rfl⟩ := List.mem_map.mp hm
  obtain ⟨m, hmem, rfl⟩ := List.mem_map.mp (OrderedMap.mem_entries_ofList he)
  obtain ⟨found, hfound, hmember⟩ := exists_of_mem_forall₂ (forall₂_of_forAll hread) hmem
  exact ⟨found, isListedIn_of_mem hentries hfound, of_readMember hmember⟩

/-! ### Symbols -/

/-- The symbol says what the fields of the entry say. -/
structure IsSymbolOf (here manifest : Path) (entry : Entry) (s : Symbol) : Prop where
  names : ∃ name, entry.name? = some name
    ∧ s.fullName = String.ofList (stripLeading '\\' name)
    ∧ s.shortName = String.ofList (splitFullName (stripLeading '\\' name)).2
    ∧ ∃ given, namespaceOf? entry = .ok given
      ∧ s.namespaceName
        = given.getD (String.ofList (splitFullName (stripLeading '\\' name)).1)
  kind : kindOf manifest s.fullName entry = .ok s.kind
  sourceFile : sourceFileOf here manifest entry = .ok s.sourceFile
  modifiers : entry.wordsOf "modifiers" = .ok s.modifiers
  parent : ∃ parent, entry.plain? "parent" = .ok parent ∧ s.parent = fullName (parent.getD "")
  interfaces : ∃ interfaces, entry.wordsOf "interfaces" = .ok interfaces
    ∧ s.interfaces = interfaces.map fullName
  docBlock : s.docBlock = .ofComment? entry.comment?
  constants : (readSection manifest s.fullName .constants .constant entry).result = .ok s.constants
  properties :
    (readSection manifest s.fullName .properties .property entry).result = .ok s.properties
  methods : (readSection manifest s.fullName .methods .method entry).result = .ok s.methods

theorem of_readEntry {here : Path} {index : Nat} {s : Symbol}
    (h : (readEntry here manifest index entry).result = .ok s) :
  IsSymbolOf here manifest entry s
  := by
  unfold readEntry at h
  obtain ⟨name, hname, h⟩ := result_bind_eq_ok_iff.mp h
  obtain ⟨given, hgiven, h⟩ := result_bind_eq_ok_iff.mp h
  obtain ⟨kind, hkind, h⟩ := result_bind_eq_ok_iff.mp h
  obtain ⟨sourceFile, hsource, h⟩ := result_bind_eq_ok_iff.mp h
  obtain ⟨constants, hconstants, h⟩ := result_bind_eq_ok_iff.mp h
  obtain ⟨properties, hproperties, h⟩ := result_bind_eq_ok_iff.mp h
  obtain ⟨methods, hmethods, h⟩ := result_bind_eq_ok_iff.mp h
  obtain ⟨modifiers, hmodifiers, h⟩ := result_bind_eq_ok_iff.mp h
  obtain ⟨parent, hparent, h⟩ := result_bind_eq_ok_iff.mp h
  obtain ⟨interfaces, hinterfaces, h⟩ := result_bind_eq_ok_iff.mp h
  obtain ⟨docBlock, hdocBlock, h⟩ := result_bind_eq_ok_iff.mp h
  obtain ⟨_, -, h⟩ := result_bind_eq_ok_iff.mp h
  rw [lift_eq_ok_iff, nameOf_eq_ok_iff] at hname
  rw [lift_eq_ok_iff, orFail_eq_ok_iff] at hgiven hmodifiers hparent hinterfaces
  obtain rfl := Except.ok.inj hdocBlock
  obtain rfl := Except.ok.inj h
  exact {
    names := ⟨name, hname, rfl, rfl, given, hgiven, rfl⟩
    kind := hkind
    sourceFile := hsource
    modifiers := hmodifiers
    parent := ⟨parent, hparent, rfl⟩
    interfaces := ⟨interfaces, hinterfaces, rfl⟩
    docBlock := rfl
    constants := hconstants
    properties := hproperties
    methods := hmethods }

theorem IsSymbolOf.readSection {here : Path} {s : Symbol} (h : IsSymbolOf here manifest entry s)
    (kind : MemberKind) :
  (readSection manifest s.fullName kind.part kind entry).result = .ok (s.membersOf kind)
  := by
  cases kind with
  | constant => exact h.constants
  | property => exact h.properties
  | method => exact h.methods

/-- A member of a symbol is read from an entry of a section. -/
theorem IsSymbolOf.exists_of_mem_members {here : Path} {s : Symbol}
    (h : IsSymbolOf here manifest entry s) :
  ∀ m ∈ s.members, ∃ part kind e, IsListedIn entry part e
    ∧ IsMemberOf manifest s.fullName kind e m
  := by
  intro m hm
  rw [Symbol.members, List.mem_append, List.mem_append] at hm
  obtain (hm | hm) | hm := hm
  · exact ⟨.constants, .constant, exists_of_readSection h.constants m hm⟩
  · exact ⟨.properties, .property, exists_of_readSection h.properties m hm⟩
  · exact ⟨.methods, .method, exists_of_readSection h.methods m hm⟩

/-! ### Manifests -/

theorem exists_of_mem_ofItems {here : Path} {index : Nat} {items : List Value} {s : Symbol}
    (h : s ∈ (Reading.ofItems here manifest index items).symbols) :
  ∃ item ∈ items, ∃ entry, item.unfold = .map entry ∧ IsSymbolOf here manifest entry s
  := by
  induction items generalizing index with
  | nil => contradiction
  | cons item items ih =>
    unfold Reading.ofItems at h
    extract_lets first rest at h
    split at h
    case h_1 => contradiction
    case h_2 found hfound =>
      obtain rfl | h := List.mem_cons.mp h
      · unfold first readItem at hfound
        split at hfound
        case h_1 entry hentry =>
          exact ⟨item, List.mem_cons_self, entry, hentry, of_readEntry hfound⟩
        case h_2 => contradiction
      · obtain ⟨item', hitem, hread⟩ := ih h
        exact ⟨item', List.mem_cons_of_mem item hitem, hread⟩

/-- An entry of the list of symbols of a manifest. -/
def IsSymbolEntry (v : Value) (entry : Entry) : Prop :=
  ∃ items, itemsOf? v = some items ∧ ∃ item ∈ items, item.unfold = .map entry

/-- Each symbol of a manifest is read from an entry of its list. -/
theorem exists_of_mem_symbols {here : Path} {v : Value} {s : Symbol}
    (h : s ∈ (readValue here manifest v).symbols) :
  ∃ entry, IsSymbolEntry v entry ∧ IsSymbolOf here manifest entry s
  := by
  unfold readValue at h
  split at h
  case h_1 items hitems =>
    obtain ⟨item, hitem, entry, hentry, hsymbol⟩ := exists_of_mem_ofItems h
    exact ⟨entry, ⟨items, hitems, item, hitem, hentry⟩, hsymbol⟩
  case h_2 => contradiction

theorem exists_of_mem_read {loadYaml : Yaml.Loader} {disk : Disk} {s : Symbol}
    (h : s ∈ (read loadYaml disk manifest).symbols) :
  ∃ entry, IsSymbolOf disk.here manifest entry s
  := by
  unfold read at h
  split at h
  case h_1 =>
    obtain ⟨entry, -, hsymbol⟩ := exists_of_mem_symbols h
    exact ⟨entry, hsymbol⟩
  case h_2 => contradiction

end Manifest

end DocTable
