import DocTable.Manifest.Read
import DocTable.Proofs.Path.Usable
import DocTable.Proofs.Value.Printed
import Mathlib.Data.List.Forall2

/-!
# Failures of manifests

The symbols of a manifest are read one by one, and where one of them cannot be read, those before it
are kept.  What is wrong is then reported as a defect of the manifest, and the message begins with
its path (`readValue_ends`).  Only an item that cannot be printed (`IsPrintable`) makes an
exception: one with an integer of too many digits, a raw value without a form in JSON, or a source
file whose name no file can have, for a null character or a surrogate without a byte.
-/

namespace DocTable.Manifest

/-! ### What can be printed -/

namespace Entry

/-- The entry that a value is. -/
def ofValue? : Value → Option Entry
  | .map entry => some entry
  | _ => none

/-- The entries of a section, whatever their shape, without the names that the map form gives. -/
def parts (entry : Entry) (part : Section) : List Entry :=
  match (entry.given? part.word).map Value.unfold with
  | some (.map entries) => entries.filterMap fun e => ofValue? e.2.unfold
  | some (.list items) => items.filterMap fun item => ofValue? item.unfold
  | _ => []

/-- The raw value of the entry, if its default is printed from one. -/
def raw? (entry : Entry) : Option Value :=
  if (entry.field? "default").isSome then none else entry.field? "value"

/-- What the entry of a symbol gives can be printed. -/
structure IsPrintable (entry : Entry) : Prop where
  integers : (Value.map entry).IsWritable
  /-- No file has a null character in its path, or surrogates that stand for no bytes. -/
  file : ∀ name, entry.plain? "file" = .ok (some name) → Text.IsUsable name.toList
  constants : ∀ m ∈ entry.parts .constants, ∀ v ∈ m.raw?, v.IsPrintable
  properties : ∀ m ∈ entry.parts .properties, ∀ v ∈ m.raw?, v.IsPrintable
  parameters : ∀ m ∈ entry.parts .methods, ∀ p ∈ m.parts .parameters, ∀ v ∈ p.raw?, v.IsPrintable

end Entry

/-- What an item of the list of symbols gives can be printed. -/
def IsPrintable (item : Value) : Prop :=
  ∀ entry, item.unfold = .map entry → Entry.IsPrintable entry

/-- The failure is reported as a defect of the manifest, the path of which begins the message. -/
def Failure.IsDefect (manifest : Path) (failure : Failure) : Prop :=
  ∃ defect, failure = .shape manifest defect
    ∧ failure.message = manifest.text ++ (": " ++ defect.message)

/-! ### Fields -/

namespace Entry

variable {P : Unprintable → Prop} {entry : Entry} {name : String}

theorem mem_of_given? {v : Value} (h : entry.given? name = some v) :
  (.text name, v) ∈ entry
  := by
  unfold given? at h
  split at h
  · contradiction
  · exact Value.mem_of_lookup? h

theorem isWritable_field (h : (Value.map entry).IsWritable) {v : Value}
    (hv : entry.field? name = some v) :
  v.IsWritable
  := h.of_within fun _ => .value (Value.mem_of_lookup? hv)

theorem failsOnly_plain? (h : (Value.map entry).IsWritable) :
  FailsOnly P (entry.plain? name)
  := by
  unfold plain?
  cases hfield : (entry.field? name).filter Value.isTruthy with
  | none => apply failsOnly_ok
  | some v =>
    have hv := isWritable_field h (Option.filter_eq_some_iff.mp hfield).1
    exact hv.plain.bind fun _ _ => failsOnly_ok _

theorem failsOnly_wordsOf (h : (Value.map entry).IsWritable) :
  FailsOnly P (entry.wordsOf name)
  := by
  unfold wordsOf
  split
  case h_1 | h_3 => apply failsOnly_ok
  case h_2 items hitems =>
    obtain ⟨v, hv, hunfold⟩ := Option.map_eq_some_iff.mp hitems
    apply failsOnly_mapM
    intro item hitem
    have hlist := hunfold ▸ (isWritable_field h hv).unfold
    exact (hlist.of_within fun _ => .item (List.mem_of_mem_filter hitem)).plain

theorem failsOnly_type (h : (Value.map entry).IsWritable) :
  FailsOnly P entry.type
  := by
  unfold type
  split
  case h_1 => apply failsOnly_ok
  case h_2 v hv =>
    have hwritable : v.IsWritable := h.of_within fun _ => .value (mem_of_given? hv)
    split
    case h_1 members hmembers =>
      have hlist := hmembers ▸ hwritable.unfold
      refine (failsOnly_mapM fun member hmember => ?_).bind fun _ _ => failsOnly_ok _
      exact (hlist.of_within fun _ => .item hmember).plain
    case h_2 => exact hwritable.plain.bind fun _ _ => failsOnly_ok _

theorem failsOnly_defaultText (h : (Value.map entry).IsWritable)
    (hraw : ∀ v ∈ entry.raw?, v.IsPrintable) :
  FailsOnly P entry.defaultText
  := by
  unfold defaultText
  split
  case h_1 token htoken =>
    cases token with
    | null | bool => apply failsOnly_ok
    | _ => exact (isWritable_field h htoken).plain
  case h_2 hdefault =>
    cases hvalue : entry.field? "value" with
    | none => apply failsOnly_ok
    | some v =>
      have hv : v ∈ entry.raw? := by
        rw [raw?, hdefault]
        exact hvalue
      exact (isWritable_field h hvalue).printed (hraw v hv)

end Entry

/-! ### Sections -/

/-- The name that comes from a key is no other field. -/
theorem field?_keyedEntry (key : Value) (attributes : Entry) {name : String}
    (hne : "name" ≠ name) :
  (keyedEntry key attributes).field? name = attributes.field? name
  := by
  unfold keyedEntry
  split
  · rfl
  · rw [Entry.field?, Value.lookup?_append, Value.lookup?_cons_of_ne hne, Value.lookup?,
      Option.or_none, Entry.field?]

theorem raw?_keyedEntry (key : Value) (attributes : Entry) :
  (keyedEntry key attributes).raw? = attributes.raw?
  := by
  rw [Entry.raw?, Entry.raw?, field?_keyedEntry key attributes (by decide),
    field?_keyedEntry key attributes (by decide)]

theorem parts_keyedEntry (key : Value) (attributes : Entry) (part : Section) :
  (keyedEntry key attributes).parts part = attributes.parts part
  := by
  have hne : "name" ≠ part.word := by cases part <;> decide
  rw [Entry.parts, Entry.parts, Entry.given?, Entry.given?, field?_keyedEntry key attributes hne]

/-- The shapes of the entries of a section. -/
inductive IsListedIn (entry : Entry) (part : Section) : Entry → Prop where
  | item {items : List Value} {item : Value} {m : Entry}
    (hsection : (entry.given? part.word).map Value.unfold = some (.list items))
    (hitem : item ∈ items) (hm : item.unfold = .map m) : IsListedIn entry part m
  | key {entries : List (Value × Value)} {e : Value × Value}
    (hsection : (entry.given? part.word).map Value.unfold = some (.map entries))
    (he : e ∈ entries) : IsListedIn entry part (keyedEntry e.1 [])
  | keyed {entries : List (Value × Value)} {e : Value × Value} {attributes : Entry}
    (hsection : (entry.given? part.word).map Value.unfold = some (.map entries))
    (he : e ∈ entries) (hattributes : e.2.unfold = .map attributes) :
    IsListedIn entry part (keyedEntry e.1 attributes)

theorem isListedIn_of_mem {manifest : Path} {owner : String} {part : Section} {entry : Entry}
    {found : List Entry} (h : sectionEntries manifest owner part entry = .ok found) {m : Entry}
    (hm : m ∈ found) :
  IsListedIn entry part m
  := by
  unfold sectionEntries at h
  split at h
  case h_1 =>
    obtain rfl := Except.ok.inj h
    contradiction
  case h_2 entries hentries =>
    obtain ⟨e, he, hread⟩ := exists_of_mem_mapM h hm
    unfold keyedEntryOf at hread
    split at hread
    case h_1 =>
      obtain rfl := Except.ok.inj hread
      exact .key hentries he
    case h_2 attributes hattributes =>
      obtain rfl := Except.ok.inj hread
      exact .keyed hentries he hattributes
    case h_3 =>
      cases hkey : e.1.plain <;> rw [hkey] at hread <;> contradiction
  case h_3 items hitems =>
    obtain ⟨item, hitem, hread⟩ := exists_of_mem_mapM h hm
    unfold listedEntry at hread
    split at hread
    case h_1 hentry =>
      obtain rfl := Except.ok.inj hread
      exact .item hitems hitem hentry
    case h_2 => contradiction
  case h_4 => contradiction

/-- What the parts of an entry have in common, its own entries have too if names do not matter. -/
theorem IsListedIn.of_parts {entry m : Entry} {part : Section} (h : IsListedIn entry part m)
    {Q : Entry → Prop} (hempty : Q []) (hkeyed : ∀ key p, Q p → Q (keyedEntry key p))
    (hparts : ∀ p ∈ entry.parts part, Q p) :
  Q m
  := by
  cases h with
  | item hsection hitem hm =>
    apply hparts
    rw [Entry.parts, hsection]
    exact List.mem_filterMap.mpr ⟨_, hitem, by rw [hm]; rfl⟩
  | key => exact hkeyed _ _ hempty
  | keyed hsection he hattributes =>
    apply hkeyed
    apply hparts
    rw [Entry.parts, hsection]
    exact List.mem_filterMap.mpr ⟨_, he, by rw [hattributes]; rfl⟩

theorem isWritable_section {entry : Entry} (h : (Value.map entry).IsWritable) {name : String}
    {v : Value} (hsection : (entry.given? name).map Value.unfold = some v) :
  v.IsWritable
  := by
  obtain ⟨w, hw, rfl⟩ := Option.map_eq_some_iff.mp hsection
  exact (h.of_within fun _ => .value (Entry.mem_of_given? hw)).unfold

theorem isWritable_keyedEntry {key : Value} {attributes : Entry} (hkey : key.IsWritable)
    (hattributes : (Value.map attributes).IsWritable) :
  (Value.map (keyedEntry key attributes)).IsWritable
  := by
  unfold keyedEntry
  split
  · exact hattributes
  · intro n hn
    have hmem {e : Value × Value} (he : e ∈ attributes ++ [(.text "name", key)]) :
        e ∈ attributes ∨ e = (.text "name", key) := by simpa using he
    cases hn with
    | key he h =>
      obtain he | rfl := hmem he
      · exact hattributes n (.key he h)
      · contradiction
    | value he h =>
      obtain he | rfl := hmem he
      · exact hattributes n (.value he h)
      · exact hkey n h

theorem IsListedIn.isWritable {entry m : Entry} {part : Section} (h : IsListedIn entry part m)
    (hwritable : (Value.map entry).IsWritable) :
  (Value.map m).IsWritable
  := by
  cases h with
  | item hsection hitem hm =>
    have hlist := isWritable_section hwritable hsection
    exact hm ▸ (hlist.of_within fun _ => .item hitem).unfold
  | key hsection he =>
    have hmap := isWritable_section hwritable hsection
    apply isWritable_keyedEntry (hmap.of_within fun _ => .key he)
    intro n hn
    cases hn <;> contradiction
  | keyed hsection he hattributes =>
    have hmap := isWritable_section hwritable hsection
    apply isWritable_keyedEntry (hmap.of_within fun _ => .key he)
    exact hattributes ▸ (hmap.of_within fun _ => .value he).unfold

/-! ### Members -/

section

variable {manifest : Path} {owner : String} {entry : Entry}

theorem failsOnly_shape {α : Type} (defect : Defect) :
  FailsOnly (Failure.IsDefect manifest) (.error (.shape manifest defect) : Except Failure α)
  := failsOnly_error ⟨defect, rfl, String.append_assoc⟩

theorem failsOnly_orFail {α : Type} {r : Except Unprintable α}
    (h : FailsOnly (fun _ => False) r) :
  FailsOnly (Failure.IsDefect manifest) (orFail r)
  := FailsOnly.mapError fun e he => (h e he).elim

theorem failsOnly_nameOf (missing : Defect) :
  FailsOnly (Failure.IsDefect manifest) (nameOf manifest missing entry)
  := by
  unfold nameOf
  split
  · apply failsOnly_ok
  · apply failsOnly_shape

theorem failsOnly_sectionEntries (h : (Value.map entry).IsWritable) (part : Section) :
  FailsOnly (Failure.IsDefect manifest) (sectionEntries manifest owner part entry)
  := by
  unfold sectionEntries
  split
  case h_1 => apply failsOnly_ok
  case h_2 entries hentries =>
    apply failsOnly_mapM
    intro e he
    unfold keyedEntryOf
    split
    case h_1 | h_2 => apply failsOnly_ok
    case h_3 =>
      have hkey := (isWritable_section h hentries).of_within fun _ => .key he
      exact (failsOnly_orFail hkey.plain).bind fun _ _ => failsOnly_shape _
  case h_3 items hitems =>
    apply failsOnly_mapM
    intro item _
    unfold listedEntry
    split
    · apply failsOnly_ok
    · apply failsOnly_shape
  case h_4 => apply failsOnly_shape

theorem failsOnly_readParameter (method : String) (h : (Value.map entry).IsWritable)
    (hraw : ∀ v ∈ entry.raw?, v.IsPrintable) :
  FailsOnly (Failure.IsDefect manifest) (readParameter manifest owner method entry)
  := by
  unfold readParameter
  refine (failsOnly_nameOf _).bind fun _ _ => ?_
  refine (failsOnly_orFail (Entry.failsOnly_type h)).bind fun _ _ => ?_
  refine (failsOnly_orFail (Entry.failsOnly_defaultText h hraw)).bind fun _ _ => ?_
  apply failsOnly_ok

theorem failsOnly_readParameters (method : String) (h : (Value.map entry).IsWritable)
    (hraw : ∀ p ∈ entry.parts .parameters, ∀ v ∈ p.raw?, v.IsPrintable) :
  FailsOnly (Failure.IsDefect manifest) (readParameters manifest owner method entry)
  := by
  unfold readParameters
  refine (failsOnly_sectionEntries h .parameters).bind fun found hfound => ?_
  apply failsOnly_mapM
  intro p hp
  have hlisted := isListedIn_of_mem hfound hp
  apply failsOnly_readParameter method (hlisted.isWritable h)
  refine hlisted.of_parts nofun (fun key p hp => ?_) hraw
  rwa [raw?_keyedEntry]

/-- The member that an entry describes is read, or the entry has a defect. -/
theorem failsOnly_readMember (kind : MemberKind) (h : (Value.map entry).IsWritable)
    (hraw : kind ≠ .method → ∀ v ∈ entry.raw?, v.IsPrintable)
    (hparameters : kind = .method → ∀ p ∈ entry.parts .parameters, ∀ v ∈ p.raw?, v.IsPrintable) :
  FailsOnly (Failure.IsDefect manifest) (readMember manifest owner kind entry).result
  := by
  unfold readMember
  refine FailsOnly.result_bind (failsOnly_nameOf _) fun name _ => ?_
  extract_lets withParameters
  have hwithParameters (parameters : List Parameter) :
      FailsOnly (Failure.IsDefect manifest) (withParameters parameters).result := by
    refine FailsOnly.result_bind (failsOnly_orFail (Entry.failsOnly_wordsOf h)) fun _ _ => ?_
    refine FailsOnly.result_bind (failsOnly_orFail (Entry.failsOnly_type h)) fun type _ => ?_
    extract_lets withDefault
    have hwithDefault (defaultText : String) :
        FailsOnly (Failure.IsDefect manifest) (withDefault defaultText).result :=
      FailsOnly.result_bind (failsOnly_ok _) fun _ _ => failsOnly_ok _
    split
    case isTrue => exact hwithDefault ""
    case isFalse hkind =>
      refine FailsOnly.result_bind ?_ fun defaultText _ => hwithDefault defaultText
      exact failsOnly_orFail (Entry.failsOnly_defaultText h (hraw hkind))
  split
  case isTrue hkind =>
    refine FailsOnly.result_bind ?_ fun parameters _ => hwithParameters parameters
    exact failsOnly_readParameters _ h (hparameters hkind)
  case isFalse => exact hwithParameters []

theorem failsOnly_readSection (part : Section) (kind : MemberKind)
    (h : (Value.map entry).IsWritable)
    (hraw : kind ≠ .method → ∀ m ∈ entry.parts part, ∀ v ∈ m.raw?, v.IsPrintable)
    (hparameters : kind = .method → ∀ m ∈ entry.parts part, ∀ p ∈ m.parts .parameters,
      ∀ v ∈ p.raw?, v.IsPrintable) :
  FailsOnly (Failure.IsDefect manifest) (readSection manifest owner part kind entry).result
  := by
  unfold readSection
  refine FailsOnly.result_bind (failsOnly_sectionEntries h part) fun found hfound => ?_
  refine FailsOnly.result_bind (failsOnly_forAll fun m hm => ?_) fun _ _ => failsOnly_ok _
  have hlisted := isListedIn_of_mem hfound hm
  apply failsOnly_readMember kind (hlisted.isWritable h)
  · intro hkind
    refine hlisted.of_parts nofun (fun key p hp => ?_) (hraw hkind)
    rwa [raw?_keyedEntry]
  · intro hkind
    refine hlisted.of_parts nofun (fun key p hp => ?_) (hparameters hkind)
    rwa [parts_keyedEntry]

/-! ### Symbols -/

theorem failsOnly_namespaceOf? {P : Unprintable → Prop} (h : (Value.map entry).IsWritable) :
  FailsOnly P (namespaceOf? entry)
  := by
  unfold namespaceOf?
  cases hfield : entry.field? "namespace" with
  | none => apply failsOnly_ok
  | some v =>
    refine FailsOnly.bind ?_ fun _ _ => failsOnly_ok _
    dsimp only
    split
    · exact (Entry.isWritable_field h hfield).plain.bind fun _ _ => failsOnly_ok _
    · apply failsOnly_ok

theorem failsOnly_kindOf (h : (Value.map entry).IsWritable) :
  FailsOnly (Failure.IsDefect manifest) (kindOf manifest owner entry)
  := by
  unfold kindOf
  refine (failsOnly_orFail (Entry.failsOnly_plain? h)).bind fun _ _ => ?_
  extract_lets word
  split
  · apply failsOnly_ok
  · apply failsOnly_shape

theorem failsOnly_sourceFileOf (hmanifest : manifest.IsUsable) (here : Path)
    (h : entry.IsPrintable) :
  FailsOnly (Failure.IsDefect manifest) (sourceFileOf here manifest entry)
  := by
  unfold sourceFileOf
  refine (failsOnly_orFail (Entry.failsOnly_plain? h.integers)).bind fun file? hfile => ?_
  have hresolve {p : Path} (hp : p.IsUsable) :
      FailsOnly (Failure.IsDefect manifest)
        (((p.resolve here).map Path.text).mapError Failure.noPath) := by
    rw [Path.resolve_of_isUsable hp]
    apply failsOnly_ok
  cases file? with
  | none => exact hresolve hmanifest
  | some name =>
    apply hresolve (hmanifest.parent.join (Path.isUsable_ofText_iff.mpr ?_))
    apply h.file name
    cases hplain : entry.plain? "file" with
    | error => rw [hplain] at hfile; contradiction
    | ok => rw [hplain] at hfile; exact congrArg _ (Except.ok.inj hfile)

/-- The symbol that an entry describes is read, or the entry has a defect. -/
theorem failsOnly_readEntry (hmanifest : manifest.IsUsable) (here : Path) (index : Nat)
    (h : entry.IsPrintable) :
  FailsOnly (Failure.IsDefect manifest) (readEntry here manifest index entry).result
  := by
  have hwords (name : String) :
      FailsOnly (Failure.IsDefect manifest) (orFail (entry.wordsOf name)) :=
    failsOnly_orFail (Entry.failsOnly_wordsOf h.integers)
  have hplain (name : String) :
      FailsOnly (Failure.IsDefect manifest) (orFail (entry.plain? name)) :=
    failsOnly_orFail (Entry.failsOnly_plain? h.integers)
  unfold readEntry
  refine FailsOnly.result_bind (failsOnly_nameOf _) fun name _ => ?_
  refine FailsOnly.result_bind (failsOnly_orFail (failsOnly_namespaceOf? h.integers)) fun _ _ => ?_
  refine FailsOnly.result_bind (failsOnly_kindOf h.integers) fun _ _ => ?_
  refine FailsOnly.result_bind (failsOnly_sourceFileOf hmanifest here h) fun _ _ => ?_
  refine FailsOnly.result_bind ?_ fun _ _ => FailsOnly.result_bind ?_ fun _ _ => ?_
  · exact failsOnly_readSection _ _ h.integers (fun _ => h.constants) nofun
  · exact failsOnly_readSection _ _ h.integers (fun _ => h.properties) nofun
  refine FailsOnly.result_bind ?_ fun _ _ => ?_
  · exact failsOnly_readSection _ _ h.integers (fun hkind => (hkind rfl).elim) fun _ => h.parameters
  refine FailsOnly.result_bind (hwords _) fun _ _ => ?_
  refine FailsOnly.result_bind (hplain _) fun _ _ => ?_
  refine FailsOnly.result_bind (hwords _) fun _ _ => ?_
  refine FailsOnly.result_bind (failsOnly_ok _) fun _ _ => ?_
  exact FailsOnly.result_bind (failsOnly_ok _) fun _ _ => failsOnly_ok _

theorem failsOnly_readItem (hmanifest : manifest.IsUsable) (here : Path) (index : Nat)
    {item : Value} (h : IsPrintable item) :
  FailsOnly (Failure.IsDefect manifest) (readItem here manifest index item).result
  := by
  unfold readItem
  split
  case h_1 entry hentry => exact failsOnly_readEntry hmanifest here index (h entry hentry)
  case h_2 => apply failsOnly_shape

end

/-! ### Manifests -/

/-- The symbols are those of the items, one for each, in order; `index` is the place of the
first. -/
def AreRead (here manifest : Path) (index : Nat) (items : List Value) (symbols : List Symbol) :
    Prop :=
  List.Forall₂ (fun item s => (readItem here manifest item.2 item.1).result = .ok s)
    (items.zipIdx index) symbols

/-- How the reading of a list of symbols ends. -/
inductive Ends (here manifest : Path) (index : Nat) (items : List Value) (reading : Reading) :
    Prop where
  /-- All items are read. -/
  | complete (symbols : AreRead here manifest index items reading.symbols)
    (noStop : reading.failure = none)
  /-- The items before one that is not are read; it has a defect or cannot be printed. -/
  | early (before after : List Value) {item : Value} {failure : Failure}
    (split : items = before ++ item :: after)
    (symbols : AreRead here manifest index before reading.symbols)
    (stop : reading.failure = some failure)
    (cause : failure.IsDefect manifest ∨ ¬IsPrintable item)

theorem ofItems_ends {manifest : Path} (hmanifest : manifest.IsUsable) (here : Path)
    (index : Nat) (items : List Value) :
  Ends here manifest index items (.ofItems here manifest index items)
  := by
  induction items generalizing index with
  | nil => exact .complete .nil rfl
  | cons item items ih =>
    unfold Reading.ofItems
    extract_lets first rest
    split
    case h_1 failure hfirst =>
      refine .early [] items rfl .nil rfl ?_
      rw [or_iff_not_imp_right, not_not]
      intro hprintable
      exact failsOnly_readItem hmanifest here index hprintable failure hfirst
    case h_2 s hfirst =>
      cases ih (index + 1) with
      | complete symbols noStop => exact .complete (.cons hfirst symbols) noStop
      | early before after split symbols stop cause =>
        exact .early (item :: before) after (congrArg (item :: ·) split) (.cons hfirst symbols) stop
          cause

/-- A manifest gives the symbols of all its items, or those of the items before one that has a
defect or cannot be printed. -/
theorem readValue_ends {manifest : Path} (hmanifest : manifest.IsUsable) (here : Path)
    (v : Value) :
  match itemsOf? v with
  | some items => Ends here manifest 0 items (readValue here manifest v)
  | none => ∃ failure, readValue here manifest v = .failing failure ∧ failure.IsDefect manifest
  := by
  unfold readValue
  cases itemsOf? v with
  | some items => exact ofItems_ends hmanifest here 0 items
  | none => exact ⟨_, rfl, _, rfl, String.append_assoc⟩

/-- A symbol, and a number in the place of another. -/
def oddItems : List Value := [.map [(.text "name", .text "Cache")], .int 3]

theorem readValue_oddItems :
  (Path.ofText "cache.symbols.yml").IsUsable
    ∧ Ends {} (.ofText "cache.symbols.yml") 0 oddItems
      (readValue {} (.ofText "cache.symbols.yml") (.list oddItems))
  := ⟨by decide, readValue_ends (by decide) {} (.list oddItems)⟩

/-- A symbol with a constant, the value of which is a list with a date. -/
def datedItems : List Value :=
  let days := .map [(.text "name", .text "DAYS"), (.text "value", .list [.date ⟨2024, 1, 2⟩])]
  [.map [(.text "name", .text "Plan"), (.text "constants", .list [days])]]

/-- A date in the raw value of a constant is no defect of the manifest: no message names its
path. -/
theorem not_isDefect_datedItems :
  ∃ failure, (readValue {} (.ofText "plan.symbols.yml") (.list datedItems)).failure = some failure
    ∧ ¬failure.IsDefect (.ofText "plan.symbols.yml")
  := by
  use .unprintable (.noForm .date)
  constructor
  · decide +kernel
  · rintro ⟨defect, hdefect, -⟩
    contradiction

end DocTable.Manifest
