import DocTable.Proofs.Json.Closed
import DocTable.Proofs.Manifest.Reading
import DocTable.Proofs.Value.Tokens
import DocTable.Proofs.Yaml.Closed

/-!
# Defaults that are read from manifests

The printed default of an entry tells whether there is one and whether it is null
(`TellsDefault`): a default is printed as nothing only when it is missing or an empty text, and as
`null` only when it is null or this text, whichever of its two fields it stands in.  All values that
a manifest is loaded with are closed if those of the loader are (`isClosed_load`), and so the
records of a manifest tell their defaults (`read_tellsDefaults`).
-/

namespace DocTable.Manifest

open Value

/-! ### Printed defaults -/

/-- Neither the default nor the raw value of the entry is a bare mark. -/
structure HasWholeDefault (entry : Entry) : Prop where
  default : ∀ v ∈ entry.field? "default", v.IsWhole
  value : ∀ v ∈ entry.field? "value", v.IsWhole

/-- The token tells the default of an entry: it is empty just when there is no default, or an empty
text for one, and `null` just when the default is null or this text, or it is missing and the raw
value is null. -/
structure TellsDefault (entry : Entry) (token : String) : Prop where
  empty_iff : token = "" ↔
    entry.field? "default" = none ∧ entry.field? "value" = none
      ∨ entry.field? "default" = some (.text "")
  null_iff : token = "null" ↔
    entry.field? "default" = some .null ∨ entry.field? "default" = some (.text "null")
      ∨ entry.field? "default" = none ∧ entry.field? "value" = some .null

variable {entry : Entry} {token : String}

theorem isDistinctive_defaultToken {v : Value} (hv : v.IsWhole) (hnull : v ≠ .null)
    (htext : ∀ s, v ≠ .text s) (h : Entry.defaultToken v = .ok token) :
  IsDistinctive token
  := by
  unfold Entry.defaultToken at h
  split at h
  case h_1 => exact absurd rfl hnull
  case h_2 b =>
    obtain rfl := Except.ok.inj h
    exact ⟨'e', by cases b <;> decide, by decide⟩
  case h_3 => exact hv.isDistinctive_plain htext h

/-- A default that is given is written as it is, and null as `null`. -/
theorem tellsDefault_of_default {v : Value} (hfield : entry.field? "default" = some v)
    (hv : v.IsWhole) (h : Entry.defaultToken v = .ok token) :
  TellsDefault entry token
  := by
  by_cases hnull : v = .null
  · subst hnull
    obtain rfl := Except.ok.inj h
    exact ⟨by simp [hfield], by simp [hfield]⟩
  by_cases htext : ∃ s, v = .text s
  · obtain ⟨s, rfl⟩ := htext
    obtain rfl := Except.ok.inj h
    exact ⟨by simp [hfield], by simp [hfield]⟩
  have htoken := isDistinctive_defaultToken hv hnull (fun s hs => htext ⟨s, hs⟩) h
  have hnot (s : String) : v ≠ .text s := fun hs => htext ⟨s, hs⟩
  exact ⟨iff_of_false htoken.ne_empty (by simp [hfield, hnot]),
    iff_of_false htoken.ne_null (by simp [hfield, hnull, hnot])⟩

/-- A raw value is printed as it is read, and texts stand between apostrophes. -/
theorem tellsDefault_of_value (hdefault : entry.field? "default" = none)
    (hwhole : ∀ v ∈ entry.field? "value", v.IsWhole)
    (h : Value.printed? (entry.field? "value") = .ok token) :
  TellsDefault entry token
  := by
  cases hvalue : entry.field? "value" with
  | none =>
    rw [hvalue] at h
    obtain rfl := Except.ok.inj h
    exact ⟨by simp [hdefault, hvalue], by simp [hdefault, hvalue]⟩
  | some v =>
    rw [hvalue] at h
    by_cases hnull : v = .null
    · subst hnull
      obtain rfl := Except.ok.inj h
      exact ⟨by simp [hdefault, hvalue], by simp [hdefault, hvalue]⟩
    · have htoken := (hwhole v hvalue).isDistinctive_printed hnull h
      exact ⟨iff_of_false htoken.ne_empty (by simp [hdefault, hvalue]),
        iff_of_false htoken.ne_null (by simp [hdefault, hvalue, hnull])⟩

theorem HasWholeDefault.tells (h : HasWholeDefault entry) (htoken : entry.defaultText = .ok token) :
  TellsDefault entry token
  := by
  unfold Entry.defaultText at htoken
  split at htoken
  case h_1 v hv => exact tellsDefault_of_default hv (h.default v hv) htoken
  case h_2 hnone => exact tellsDefault_of_value hnone h.value htoken

/-! ### Entries of manifests -/

/-- Every field of the entry but its name is closed; the name may come from a key. -/
def HasClosedFields (entry : Entry) : Prop :=
  ∀ name, "name" ≠ name → ∀ v ∈ entry.field? name, v.IsClosed

theorem hasClosedFields_of_isClosed (h : (Value.map entry).IsClosed) :
  HasClosedFields entry
  := fun _ _ _ hv => h.of_lookup? hv

theorem hasClosedFields_nil :
  HasClosedFields []
  := fun _ _ _ hv => nomatch hv

theorem HasClosedFields.keyedEntry (h : HasClosedFields entry) (key : Value) :
  HasClosedFields (keyedEntry key entry)
  := by
  intro name hname v hv
  rw [field?_keyedEntry key entry hname] at hv
  exact h name hname v hv

theorem HasClosedFields.hasWholeDefault (h : HasClosedFields entry) :
  HasWholeDefault entry where
  default v hv := (h "default" (by decide) v hv).isWhole
  value v hv := (h "value" (by decide) v hv).isWhole

theorem HasClosedFields.section (h : HasClosedFields entry) {part : Section} {v : Value}
    (hsection : (entry.given? part.word).map Value.unfold = some v) :
  v.IsClosed
  := by
  obtain ⟨w, hw, rfl⟩ := Option.map_eq_some_iff.mp hsection
  have hne : "name" ≠ part.word := by cases part <;> decide
  unfold Entry.given? at hw
  split at hw
  · contradiction
  · exact (h part.word hne w hw).unfold

/-- The entries of the sections of an entry have closed fields as it has. -/
theorem IsListedIn.hasClosedFields {part : Section} {e : Entry} (h : IsListedIn entry part e)
    (hentry : HasClosedFields entry) :
  HasClosedFields e
  := by
  cases h with
  | item hsection hitem hm =>
    have hitem := ((hentry.section hsection).of_mem_list _ hitem).unfold
    exact hasClosedFields_of_isClosed (hm ▸ hitem)
  | key => exact hasClosedFields_nil.keyedEntry _
  | keyed hsection he hattributes =>
    have hvalue := ((hentry.section hsection).of_mem_map _ he).unfold
    exact (hasClosedFields_of_isClosed (hattributes ▸ hvalue)).keyedEntry _

theorem isClosed_of_itemsOf? {v : Value} (hv : v.IsClosed) {items : List Value}
    (h : itemsOf? v = some items) :
  ∀ item ∈ items, item.IsClosed
  := by
  have hunfold := hv.unfold
  unfold itemsOf? at h
  split at h
  case h_1 found hlist =>
    obtain rfl := Option.some.inj h
    exact (hlist ▸ hunfold).of_mem_list
  case h_2 entries hmap =>
    split at h
    case h_1 =>
      obtain rfl := Option.some.inj h
      exact nofun
    case h_2 found hfound =>
      obtain rfl := Option.some.inj h
      obtain ⟨w, hw, hlist⟩ := Option.map_eq_some_iff.mp hfound
      have hclosed : w.IsClosed := (hmap ▸ hunfold).of_lookup? hw
      exact (hlist ▸ hclosed.unfold).of_mem_list
    case h_3 => contradiction
  case h_3 => contradiction

theorem IsSymbolEntry.hasClosedFields {v : Value} (h : IsSymbolEntry v entry) (hv : v.IsClosed) :
  HasClosedFields entry
  := by
  obtain ⟨items, hitems, item, hitem, hentry⟩ := h
  exact hasClosedFields_of_isClosed (hentry ▸ (isClosed_of_itemsOf? hv hitems item hitem).unfold)

/-- The value of a manifest is closed. -/
theorem isClosed_load {loadYaml : Yaml.Loader} (hclosed : loadYaml.IsClosed) {disk : Disk}
    {manifest : Path} {v : Value} (h : load loadYaml disk manifest = .ok v) :
  v.IsClosed
  := by
  unfold load at h
  extract_lets readText at h
  split at h
  · contradiction
  · obtain ⟨bytes, -, h⟩ := exists_of_bind_eq_ok h
    obtain ⟨text, -, h⟩ := exists_of_bind_eq_ok h
    split at h
    · obtain rfl := Except.ok.inj h
      exact .map fun _ he => nomatch he
    · split at h
      · split at h
        case h_1 hread =>
          obtain rfl := Except.ok.inj h
          exact Json.isClosed_read hread
        case h_2 | h_3 => exact nomatch h
      · split at h
        case h_1 hread =>
          obtain rfl := Except.ok.inj h
          exact hclosed text _ hread
        case h_2 | h_3 => exact nomatch h

/-! ### Records -/

/-- The member is read from the entry, and its default and those of its parameters are told as in
their entries; a method has no default whatever its entry says. -/
structure TellsDefaults (manifest : Path) (owner : String) (e : Entry) (m : Member) : Prop where
  isRead : IsMemberOf manifest owner m.kind e m
  ofMethod : m.kind = .method → m.defaultText = ""
  ofOther : m.kind ≠ .method → TellsDefault e m.defaultText
  ofParameters : ∀ p ∈ m.parameters, ∃ q, IsListedIn e .parameters q ∧ IsParameterOf q p
    ∧ TellsDefault q p.defaultText

theorem IsMemberOf.tellsDefaults {manifest : Path} {owner : String} {kind : MemberKind} {e : Entry}
    {m : Member} (h : IsMemberOf manifest owner kind e m) (he : HasClosedFields e) :
  TellsDefaults manifest owner e m
  := by
  obtain rfl := h.isOfKind
  refine ⟨h, fun hkind => (h.ofMethod hkind).1, fun hkind => ?_, fun p hp => ?_⟩
  · exact he.hasWholeDefault.tells (h.ofOther hkind).1
  · obtain ⟨q, hq, hread⟩ := h.exists_of_mem_parameters p hp
    exact ⟨q, hq, hread, (hq.hasClosedFields he).hasWholeDefault.tells hread.defaultText⟩

/-- Absent and null defaults are told apart in manifests.  The token of any entry tells its default,
a method has none, and so it is with the members and the parameters of each symbol of a manifest. -/
theorem read_tellsDefaults (loadYaml : Yaml.Loader) (disk : Disk) (manifest : Path) :
  (∀ entry : Entry, HasWholeDefault entry → ∀ token, entry.defaultText = .ok token →
      TellsDefault entry token)
    ∧ (∀ owner entry m, (readMember manifest owner .method entry).result = .ok m →
      m.defaultText = "")
    ∧ (loadYaml.IsClosed → ∀ s ∈ (read loadYaml disk manifest).symbols, ∃ v entry,
      load loadYaml disk manifest = .ok v ∧ IsSymbolEntry v entry
        ∧ ∀ m ∈ s.members, ∃ part e, IsListedIn entry part e
          ∧ TellsDefaults manifest s.fullName e m)
  := by
  refine ⟨fun entry hentry token htoken => hentry.tells htoken,
    fun owner entry m hm => ((of_readMember hm).ofMethod rfl).1, fun hclosed s hs => ?_⟩
  unfold read at hs
  split at hs
  case h_1 v hv =>
    obtain ⟨entry, hentry, hsymbol⟩ := exists_of_mem_symbols hs
    refine ⟨v, entry, hv, hentry, fun m hm => ?_⟩
    obtain ⟨part, kind, e, he, hmember⟩ := hsymbol.exists_of_mem_members m hm
    have hfields := he.hasClosedFields (hentry.hasClosedFields (isClosed_load hclosed hv))
    exact ⟨part, e, he, hmember.tellsDefaults hfields⟩
  case h_2 => contradiction

/-- A manifest with a constant that is null and one without a value. -/
def limitsText : String :=
  "[\x7b\x22name\x22: \x22Cache\x22, \x22constants\x22: "
    ++ "[\x7b\x22name\x22: \x22LIMIT\x22, \x22value\x22: null\x7d, "
    ++ "\x7b\x22name\x22: \x22SIZE\x22\x7d]\x7d]"

/-- A disk with this manifest. -/
def limitsDisk : Disk :=
  { tree := .directory [("cache.symbols.json", .file (Text.Utf8.encode limitsText))]
    here := { root := .absolute } }

/-- The entry of the constant that is null. -/
def limitEntry : Entry := [(.text "name", .text "LIMIT"), (.text "value", .null)]

theorem read_tellsDefaults_limits :
  Yaml.loader.IsClosed
    ∧ (∃ s ∈ (read Yaml.loader limitsDisk (.ofText "cache.symbols.json")).symbols,
      s.members.map (fun m => (m.name, m.defaultText)) = [("LIMIT", "null"), ("SIZE", "")]
        ∧ ∃ v entry, load Yaml.loader limitsDisk (.ofText "cache.symbols.json") = .ok v
          ∧ IsSymbolEntry v entry ∧ ∀ m ∈ s.members, ∃ part e, IsListedIn entry part e
            ∧ TellsDefaults (.ofText "cache.symbols.json") s.fullName e m)
    ∧ HasWholeDefault limitEntry ∧ limitEntry.defaultText = .ok "null"
    ∧ TellsDefault limitEntry "null"
  := by
  have hread : [("LIMIT", "null"), ("SIZE", "")]
      ∈ (read Yaml.loader limitsDisk (.ofText "cache.symbols.json")).symbols.map fun s =>
        s.members.map fun m => (m.name, m.defaultText) := by
    decide +kernel
  obtain ⟨s, hs, hmembers⟩ := List.mem_map.mp hread
  have hwhole : HasWholeDefault limitEntry := by
    constructor
    · exact nofun
    · rintro _ ⟨⟩
      trivial
  have hclosed := Yaml.isClosed_loader
  obtain ⟨htells, -, hrecords⟩ :=
    read_tellsDefaults Yaml.loader limitsDisk (.ofText "cache.symbols.json")
  exact ⟨hclosed, ⟨s, hs, hmembers, hrecords hclosed s hs⟩, hwhole, rfl,
    htells limitEntry hwhole "null" rfl⟩

end DocTable.Manifest
