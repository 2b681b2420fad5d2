import DocTable.Proofs.Manifest.Fields
import Mathlib.Logic.Relation

/-!
# The two forms of a section

A section is given as a map from names to attributes, or as a list of maps with their names among
the attributes.  Both forms of a section of a symbol hold the same members, and both forms of the
section for the parameters of a method the same parameters.  So an entry is read alike, whether as
a symbol or with a failure, however many of its sections are given in the other form
(`readEntry_listForm`).
-/

namespace DocTable.Manifest

open Entry

/-! ### Forms -/

/-- What the map form gives for a key: attributes, of which null has none. -/
def attributesOf? (v : Value) : Option Entry :=
  match v.unfold with
  | .null => some []
  | .map attributes => some attributes
  | _ => none

/-- The item of a list has the attributes that the map form gives for a key, and the key as its
name.  Among the attributes there is no name. -/
inductive ListsAttributes : Value × Value → Value → Prop where
  | intro {key v item : Value} {attributes m : Entry}
    (hattributes : attributesOf? v = some attributes)
    (hnameless : attributes.field? "name" = none) (hitem : item.unfold = .map m)
    (hname : m.field? "name" = some key) (hagrees : AgreesBut ["name"] attributes m) :
    ListsAttributes (key, v) item

/-- The item with the key as its name before the attributes. -/
def listedItem (e : Value × Value) : Value :=
  .map ((.text "name", e.1) :: (attributesOf? e.2).getD [])

theorem listsAttributes_listedItem {e : Value × Value} {attributes : Entry}
    (h : attributesOf? e.2 = some attributes) (hnameless : attributes.field? "name" = none) :
  ListsAttributes e (listedItem e)
  := by
  refine .intro h hnameless rfl (Value.lookup?_cons_self "name" e.1 _) fun name hname => ?_
  have hne : "name" ≠ name := Ne.symm (by simpa using hname)
  rw [h, Option.getD_some, Entry.field?, Entry.field?, Value.lookup?_cons_of_ne hne]

/-- The section that the first entry gives as a map is a list in the second one, in the same order,
and beside it the entries have the same fields. -/
structure ListsSection (part : Section) (e e' : Entry) : Prop where
  listed : ∃ entries items, (e.given? part.word).map Value.unfold = some (.map entries)
    ∧ (e'.given? part.word).map Value.unfold = some (.list items)
    ∧ List.Forall₂ ListsAttributes entries items
  agrees : AgreesBut [part.word] e e'

/-- In either form of the section for methods, the parameters of one of them are a map in the first
value and a list in the second one. -/
inductive ListsParameters : Value → Value → Prop where
  | item (before after : List Value) {v v' : Value} {m m' : Entry} (hm : v.unfold = .map m)
    (hm' : v'.unfold = .map m') (h : ListsSection .parameters m m') :
    ListsParameters (.list (before ++ v :: after)) (.list (before ++ v' :: after))
  | attributes (before after : List (Value × Value)) {key v v' : Value} {m m' : Entry}
    (hm : v.unfold = .map m) (hm' : v'.unfold = .map m') (h : ListsSection .parameters m m') :
    ListsParameters (.map (before ++ (key, v) :: after)) (.map (before ++ (key, v') :: after))

/-- One section of the entry of a symbol, or of one of its methods, is a map in the first entry and
a list in the second one. -/
inductive ListForm (e e' : Entry) : Prop where
  | members (kind : MemberKind) (h : ListsSection kind.part e e')
  | parameters {v v' : Value}
    (hgiven : (e.given? Section.methods.word).map Value.unfold = some v)
    (hgiven' : (e'.given? Section.methods.word).map Value.unfold = some v')
    (h : ListsParameters v v') (hagrees : AgreesBut [Section.methods.word] e e')

variable {manifest : Path} {owner : String}

/-! ### Sections -/

theorem sectionEntries_of_map {part : Section} {entry : Entry} {entries : List (Value × Value)}
    (h : (entry.given? part.word).map Value.unfold = some (.map entries)) :
  sectionEntries manifest owner part entry = entries.mapM (keyedEntryOf manifest owner part)
  := by
  rw [sectionEntries, h]

theorem sectionEntries_of_list {part : Section} {entry : Entry} {items : List Value}
    (h : (entry.given? part.word).map Value.unfold = some (.list items)) :
  sectionEntries manifest owner part entry = items.mapM (listedEntry manifest owner part)
  := by
  rw [sectionEntries, h]

theorem keyedEntryOf_eq_ok {part : Section} {e : Value × Value} {attributes : Entry}
    (h : attributesOf? e.2 = some attributes) :
  keyedEntryOf manifest owner part e = .ok (keyedEntry e.1 attributes)
  := by
  unfold attributesOf? at h
  split at h
  case h_1 hnull =>
    obtain rfl := Option.some.inj h
    rw [keyedEntryOf, hnull]
    rfl
  case h_2 hmap =>
    obtain rfl := Option.some.inj h
    rw [keyedEntryOf, hmap]
    rfl
  case h_3 => contradiction

theorem listedEntry_eq_ok {part : Section} {item : Value} {m : Entry} (h : item.unfold = .map m) :
  listedEntry manifest owner part item = .ok m
  := by
  rw [listedEntry, h]

/-- The key is the name unless the attributes give one. -/
theorem field?_keyedEntry_name (key : Value) (attributes : Entry) :
  (keyedEntry key attributes).field? "name" = some ((attributes.field? "name").getD key)
  := by
  unfold keyedEntry
  cases hname : attributes.field? "name" with
  | none =>
    rw [Entry.field?] at hname
    rw [if_neg (by simp), Entry.field?, Value.lookup?_append, hname, Option.none_or,
      Value.lookup?_cons_self, Option.getD_none]
  | some v => exact hname

/-- An item that lists attributes has the same fields as the attributes under their key. -/
theorem ListsAttributes.agrees {part : Section} {e : Value × Value} {item : Value}
    (h : ListsAttributes e item) :
  Alike (AgreesBut []) (keyedEntryOf manifest owner part e) (listedEntry manifest owner part item)
  := by
  obtain ⟨hattributes, hnameless, hitem, hname, hagrees⟩ := h
  rw [keyedEntryOf_eq_ok hattributes, listedEntry_eq_ok hitem]
  -- the name comes from the key in the one entry, and is written in the other
  refine .ok fun name _ => ?_
  by_cases hkey : "name" = name
  · rw [← hkey, field?_keyedEntry_name, hnameless, hname, Option.getD_none]
  · rw [field?_keyedEntry _ _ hkey, hagrees name (by simpa using Ne.symm hkey)]

/-- Both forms of a section have entries with the same fields. -/
theorem ListsSection.alike {part : Section} {e e' : Entry} (h : ListsSection part e e') :
  Alike (List.Forall₂ (AgreesBut [])) (sectionEntries manifest owner part e)
    (sectionEntries manifest owner part e')
  := by
  obtain ⟨entries, items, hmap, hlist, hitems⟩ := h.listed
  rw [sectionEntries_of_map hmap, sectionEntries_of_list hlist]
  apply alike_mapM
  apply hitems.imp
  intro e item hitem
  apply hitem.agrees

/-! ### Members -/

/-- Members are the same if their entries have the same fields. -/
theorem readMember_of_agrees {m m' : Entry} (h : AgreesBut [] m m') (kind : MemberKind) :
  readMember manifest owner kind m = readMember manifest owner kind m'
  := by
  refine readMember_congr (h.mono (List.nil_subset _)) (fun method => ?_) kind
  rw [readParameters, sectionEntries_congr (h.given? List.not_mem_nil), readParameters]

/-- A method is the same if its parameters are given in the other form. -/
theorem ListsSection.readMember {m m' : Entry} (h : ListsSection .parameters m m')
    (kind : MemberKind) :
  readMember manifest owner kind m = readMember manifest owner kind m'
  := readMember_congr h.agrees (readParameters_congr h.alike) kind

theorem ListsSection.keyedEntry {m m' : Entry} (h : ListsSection .parameters m m') (key : Value) :
  ListsSection .parameters (keyedEntry key m) (keyedEntry key m')
  := by
  obtain ⟨⟨entries, items, hmap, hlist, hitems⟩, hagrees⟩ := h
  have hgiven (attributes : Entry) : (Manifest.keyedEntry key attributes).given? "params"
      = attributes.given? "params" := by
    rw [Entry.given?, field?_keyedEntry key attributes (by decide), Entry.given?]
  use ⟨entries, items, (hgiven m).symm ▸ hmap, (hgiven m').symm ▸ hlist, hitems⟩
  intro name hname
  by_cases hkey : "name" = name
  · rw [← hkey, field?_keyedEntry_name, field?_keyedEntry_name, hagrees "name" (by decide)]
  · rw [field?_keyedEntry _ _ hkey, field?_keyedEntry _ _ hkey, hagrees name hname]

/-- The entries of the section for methods are read alike if the parameters of one of them are given
in the other form. -/
theorem ListsParameters.alike {e e' : Entry} {v v' : Value} (h : ListsParameters v v')
    (hgiven : (e.given? Section.methods.word).map Value.unfold = some v)
    (hgiven' : (e'.given? Section.methods.word).map Value.unfold = some v') (kind : MemberKind) :
  Alike
    (List.Forall₂ fun m m' =>
      readMember manifest owner kind m = readMember manifest owner kind m')
    (sectionEntries manifest owner .methods e) (sectionEntries manifest owner .methods e')
  := by
  cases h with
  | item before after hm hm' h =>
    rw [sectionEntries_of_list hgiven, sectionEntries_of_list hgiven']
    apply alike_mapM_place
    · exact fun _ => rfl
    · rw [listedEntry_eq_ok hm, listedEntry_eq_ok hm']
      exact .ok (h.readMember kind)
  | attributes before after hm hm' h =>
    have hattributes {v : Value} {m : Entry} (hm : v.unfold = .map m) :
        attributesOf? v = some m := by rw [attributesOf?, hm]
    rw [sectionEntries_of_map hgiven, sectionEntries_of_map hgiven']
    apply alike_mapM_place
    · exact fun _ => rfl
    · rw [keyedEntryOf_eq_ok (hattributes hm), keyedEntryOf_eq_ok (hattributes hm')]
      exact .ok ((h.keyedEntry _).readMember kind)

/-! ### Symbols -/

theorem word_notMem {part other : Section} (h : part ≠ other) :
  part.word ∉ [other.word]
  := by
  cases part <;> cases other <;> first | contradiction | decide

/-- A symbol is the same if its entries differ in one section only, and there the members are the
same. -/
theorem readEntry_of_section {here : Path} {index : Nat} {e e' : Entry} (kind : MemberKind)
    (h : AgreesBut [kind.part.word] e e')
    (hsection : ∀ owner other,
      readSection manifest owner kind.part other e
        = readSection manifest owner kind.part other e') :
  readEntry here manifest index e = readEntry here manifest index e'
  := by
  have hfields : [kind.part.word] ⊆ ["namespace", "constants", "properties", "methods"] := by
    cases kind <;> simp [MemberKind.part, Section.word]
  have hnamespace : "namespace" ∉ [kind.part.word] := by
    cases kind <;> decide
  refine readEntry_congr (h.mono hfields) (fun name _ => ?_) fun owner part other => ?_
  · rw [namespaceOf?, h _ hnamespace, namespaceOf?]
    apply Alike.refl
    exact fun _ => rfl
  · by_cases hpart : part = kind.part
    · rw [hpart, hsection]
    · apply readSection_of_given?
      apply h.given? (word_notMem hpart)

theorem ListForm.readEntry {here : Path} {index : Nat} {e e' : Entry} (h : ListForm e e') :
  readEntry here manifest index e = readEntry here manifest index e'
  := by
  cases h with
  | members kind h =>
    apply readEntry_of_section kind h.agrees
    intro owner other
    apply readSection_congr
    apply h.alike.mono
    intro entries entries' hentries
    apply hentries.imp
    intro m m' hfields
    apply readMember_of_agrees hfields
  | parameters hgiven hgiven' h hagrees =>
    apply readEntry_of_section .method hagrees
    intro owner other
    apply readSection_congr
    apply h.alike hgiven hgiven'

/-- Both forms of sections are read alike. -/
theorem readEntry_listForm (here manifest : Path) (index : Nat) {entry entry' : Entry}
    (h : Relation.ReflTransGen ListForm entry entry') :
  readEntry here manifest index entry' = readEntry here manifest index entry
  := by
  induction h with
  | refl => rfl
  | tail _ hlast ih => rw [← hlast.readEntry, ih]

/-- Two constants, of which one has no attributes. -/
def limitEntries : List (Value × Value) :=
  [(.text "TTL", .null), (.text "LIMIT", .map [(.text "value", .int 3)])]

/-- Two parameters. -/
def lookupEntries : List (Value × Value) :=
  [(.text "$key", .map [(.text "type", .text "string")]), (.text "$default", .null)]

/-- A class with these sections for its constants and for the parameters of a method. -/
def cacheEntry (constants parameters : Value) : Entry :=
  [(.text "name", .text "Cache"), (.text "constants", constants),
    (.text "methods", .map [(.text "get", .map [(.text "params", parameters)])])]

theorem readEntry_listForm_cache :
  let entry := cacheEntry (.map limitEntries) (.map lookupEntries)
  let entry' := cacheEntry (.list (limitEntries.map listedItem))
    (.list (lookupEntries.map listedItem))
  let manifest : Path := .ofText "cache.symbols.json"
  Relation.ReflTransGen ListForm entry entry'
    ∧ readEntry {} manifest 0 entry' = readEntry {} manifest 0 entry
    ∧ (readEntry {} manifest 0 entry').result.map (fun s => s.members.map Member.name)
      = .ok ["TTL", "LIMIT", "get"]
  := by
  intro entry entry' manifest
  have hlimits : List.Forall₂ ListsAttributes limitEntries (limitEntries.map listedItem) :=
    .cons (listsAttributes_listedItem rfl rfl) (.cons (listsAttributes_listedItem rfl rfl) .nil)
  have hlookups : List.Forall₂ ListsAttributes lookupEntries (lookupEntries.map listedItem) :=
    .cons (listsAttributes_listedItem rfl rfl) (.cons (listsAttributes_listedItem rfl rfl) .nil)
  have hconstants : ListForm entry (cacheEntry (.list (limitEntries.map listedItem))
      (.map lookupEntries)) := by
    refine .members .constant ⟨⟨_, _, rfl, rfl, hlimits⟩, ?_⟩
    apply agreesBut_place [_]
  have hparameters : ListForm (cacheEntry (.list (limitEntries.map listedItem))
      (.map lookupEntries)) entry' := by
    have hsection : ListsSection .parameters [(.text "params", .map lookupEntries)]
        [(.text "params", .list (lookupEntries.map listedItem))] :=
      ⟨⟨_, _, rfl, rfl, hlookups⟩, agreesBut_place [] [] "params" _ _⟩
    refine .parameters rfl rfl (.attributes [] [] rfl rfl hsection) ?_
    apply agreesBut_place [_, _] []
  have hforms : Relation.ReflTransGen ListForm entry entry' :=
    .tail (.single hconstants) hparameters
  have hsame := readEntry_listForm {} manifest 0 hforms
  refine ⟨hforms, hsame, ?_⟩
  rw [hsame]
  decide

end DocTable.Manifest
