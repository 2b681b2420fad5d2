import DocTable.Introspector.Plugin
import DocTable.Proofs.OrderedMap
import DocTable.Proofs.Logged
import DocTable.Proofs.Sorting
import DocTable.Proofs.Text.LowerCase

/-!
# Finding plugins

The plugins that are used and their order depend on their names alone, and not on the order in which
they are registered or asked for (`discover_by_names`).  Their lower-cased names must differ from
each other and from that of the reader of manifests, so that no plugin takes a manifest from it.
-/

namespace DocTable.Plugin

variable {ε : Type}

/-- A plugin that loads an introspector. -/
def IsValid (plugin : Plugin ε) : Prop :=
  ∃ i, plugin.loaded = .introspector i

/-- The lower-cased names of plugins differ from each other and from the name `builtin`. -/
def HaveDistinctKeys (builtin : String) (plugins : List (Plugin ε)) : Prop :=
  (builtin :: plugins.map key).Nodup

instance (builtin : String) (plugins : List (Plugin ε)) :
    Decidable (HaveDistinctKeys builtin plugins) :=
  inferInstanceAs (Decidable (builtin :: plugins.map key).Nodup)

/-- The same introspectors are asked for, whatever the order of the names, their repetitions and
their letter case. -/
def AskAlike : Option (List String) → Option (List String) → Prop
  | none, none => True
  | some names, some names' => ∀ key, key ∈ names.map Text.lower ↔ key ∈ names'.map Text.lower
  | _, _ => False

variable {enabled enabled' : Option (List String)} {taken : List String}
  {plugins plugins' : List (Plugin ε)}

theorem IsValid.load {plugin : Plugin ε} (h : plugin.IsValid) :
  ∃ i, plugin.load = .ok i
  := by
  obtain ⟨i, hi⟩ := h
  rw [Plugin.load, hi]
  exact ⟨_, rfl⟩

/-! ### Loading -/

theorem loadAll_cons_of_mem {plugin : Plugin ε} (h : plugin.key ∈ taken) :
  (loadAll enabled taken (plugin :: plugins)).result = .error (.nameTaken plugin.name)
  := by
  rw [loadAll, if_pos h]
  rfl

theorem loadAll_cons_of_not_wanted {plugin : Plugin ε} (h : plugin.key ∉ taken)
    (hwanted : ¬isWanted enabled plugin.key) :
  loadAll enabled taken (plugin :: plugins) = loadAll enabled (plugin.key :: taken) plugins
  := by
  rw [loadAll, if_neg h, if_neg hwanted]

theorem loadAll_cons_of_wanted {plugin : Plugin ε} (h : plugin.key ∉ taken)
    (hwanted : isWanted enabled plugin.key) {i : Introspector ε} (hload : plugin.load = .ok i) :
  (loadAll enabled taken (plugin :: plugins)).result
    = (loadAll enabled (plugin.key :: taken) plugins).result.map (i :: ·)
  := by
  rw [loadAll, if_neg h, if_pos hwanted, hload]
  simp only [Logged.result_bind]
  cases (loadAll enabled (plugin.key :: taken) plugins).result with
  | error e => rfl
  | ok found => rfl

/-- Plugins with names that are not taken are loaded if they are wanted. -/
theorem exists_loadAll_eq_ok (enabled : Option (List String))
    (hvalid : ∀ plugin ∈ plugins, plugin.IsValid)
    (hkeys : (plugins.map key).Nodup) (htaken : ∀ plugin ∈ plugins, plugin.key ∉ taken) :
  ∃ found, (loadAll enabled taken plugins).result = .ok found
    ∧ (plugins.filter (isWanted enabled ·.key)).map load = found.map .ok
  := by
  induction plugins generalizing taken with
  | nil => exact ⟨[], rfl, rfl⟩
  | cons plugin plugins ih =>
    rw [List.forall_mem_cons] at hvalid htaken
    rw [List.map_cons, List.nodup_cons] at hkeys
    have hrest : ∀ other ∈ plugins, other.key ∉ plugin.key :: taken := by
      intro other hother
      rw [List.mem_cons, not_or]
      use fun heq => hkeys.1 (heq ▸ List.mem_map_of_mem hother), htaken.2 other hother
    obtain ⟨found, hfound, hloads⟩ := ih hvalid.2 hkeys.2 hrest
    by_cases hwanted : isWanted enabled plugin.key
    · obtain ⟨i, hload⟩ := hvalid.1.load
      use i :: found
      rw [loadAll_cons_of_wanted htaken.1 hwanted hload, hfound, List.filter_cons,
        if_pos hwanted, List.map_cons, List.map_cons, hload, hloads]
      exact ⟨rfl, rfl⟩
    · use found
      rw [loadAll_cons_of_not_wanted htaken.1 hwanted, List.filter_cons, if_neg hwanted]
      exact ⟨hfound, hloads⟩

/-- A name that is taken, or that stands twice among the plugins, is refused. -/
theorem exists_loadAll_eq_nameTaken (enabled : Option (List String))
    (hvalid : ∀ plugin ∈ plugins, plugin.IsValid)
    (h : ¬((plugins.map key).Nodup ∧ ∀ plugin ∈ plugins, plugin.key ∉ taken)) :
  ∃ name, (loadAll enabled taken plugins).result = .error (.nameTaken name)
  := by
  induction plugins generalizing taken with
  | nil =>
    exfalso
    exact h ⟨List.nodup_nil, List.forall_mem_nil _⟩
  | cons plugin plugins ih =>
    rw [List.forall_mem_cons] at hvalid
    by_cases htaken : plugin.key ∈ taken
    · exact ⟨plugin.name, loadAll_cons_of_mem htaken⟩
    · have hrest : ¬((plugins.map key).Nodup
          ∧ ∀ other ∈ plugins, other.key ∉ plugin.key :: taken) := by
        rintro ⟨hkeys, hothers⟩
        apply h
        rw [List.map_cons, List.nodup_cons, List.forall_mem_cons]
        refine ⟨⟨?_, hkeys⟩, htaken, ?_⟩
        · rw [List.mem_map]
          rintro ⟨other, hother, heq⟩
          apply hothers other hother
          rw [heq]
          exact List.mem_cons_self
        · intro other hother hmem
          exact hothers other hother (List.mem_cons_of_mem _ hmem)
      obtain ⟨name, hname⟩ := ih hvalid.2 hrest
      use name
      by_cases hwanted : isWanted enabled plugin.key
      · obtain ⟨i, hload⟩ := hvalid.1.load
        rw [loadAll_cons_of_wanted htaken hwanted hload, hname]
        rfl
      · rw [loadAll_cons_of_not_wanted htaken hwanted, hname]

/-! ### Names that are asked for -/

/-- Either all introspectors are asked for in both ways, or the same names are given. -/
theorem AskAlike.none_or_some (h : AskAlike enabled enabled') :
  (enabled = none ∧ enabled' = none)
    ∨ ∃ names names', enabled = some names ∧ enabled' = some names'
      ∧ ∀ key, key ∈ names.map Text.lower ↔ key ∈ names'.map Text.lower
  := by
  cases enabled with
  | none =>
    cases enabled' with
    | none => exact .inl ⟨rfl, rfl⟩
    | some names' => contradiction
  | some names =>
    cases enabled' with
    | none => contradiction
    | some names' => exact .inr ⟨names, names', rfl, rfl, h⟩

theorem AskAlike.isWanted_eq (h : AskAlike enabled enabled') (key : String) :
  isWanted enabled key = isWanted enabled' key
  := by
  obtain ⟨rfl, rfl⟩ | ⟨names, names', rfl, rfl, hnames⟩ := h.none_or_some
  · rfl
  · simp only [isWanted, hnames key]

theorem AskAlike.mem_iff (h : AskAlike enabled enabled') (key : String) :
  key ∈ (enabled.getD []).map Text.lower ↔ key ∈ (enabled'.getD []).map Text.lower
  := by
  obtain ⟨rfl, rfl⟩ | ⟨names, names', rfl, rfl, hnames⟩ := h.none_or_some
  · rfl
  · exact hnames key

/-- The same names are missing, in the same order. -/
theorem AskAlike.missing_eq (h : AskAlike enabled enabled') (known : List String) :
  missing enabled known = missing enabled' known
  := by
  rw [missing, missing, FileTree.sortNames, FileTree.sortNames]
  apply mergeSort_eq_of_perm id
  · rw [List.perm_ext_iff_of_nodup (nodup_eraseDups _) (nodup_eraseDups _)]
    intro key
    rw [List.mem_eraseDups, List.mem_eraseDups, List.mem_filter, List.mem_filter, h.mem_iff key]
  · rw [List.map_id]
    exact nodup_eraseDups _

theorem mem_missing_iff {known : List String} {key : String} :
  key ∈ missing enabled known ↔ key ∈ (enabled.getD []).map Text.lower ∧ key ∉ known
  := by
  rw [missing, FileTree.sortNames, List.mem_mergeSort, List.mem_eraseDups, List.mem_filter,
    decide_eq_true_iff]

/-- Every name that is asked for is known. -/
theorem missing_eq_nil_iff {known : List String} :
  missing enabled known = [] ↔ ∀ name ∈ enabled.getD [], Text.lower name ∈ known
  := by
  rw [List.eq_nil_iff_forall_not_mem]
  constructor
  · intro h name hname
    by_contra hunknown
    exact h _ (mem_missing_iff.mpr ⟨List.mem_map_of_mem hname, hunknown⟩)
  · intro h key hkey
    rw [mem_missing_iff, List.mem_map] at hkey
    obtain ⟨⟨name, hname, rfl⟩, hunknown⟩ := hkey
    exact hunknown (h name hname)

theorem loadAll_congr (h : ∀ key, isWanted enabled key = isWanted enabled' key) :
  loadAll enabled taken plugins = loadAll enabled' taken plugins
  := by
  induction plugins generalizing taken with
  | nil => rfl
  | cons plugin plugins ih => simp only [loadAll, h, ih]

/-! ### Manifests -/

/-- The name of a file ends in a suffix of manifests, whatever the letter case. -/
def NamesManifest (p : Path) : Prop :=
  ∃ front ending, p.name = front ++ ending ∧ Text.lower ending ∈ Manifest.suffixes

/-- No suffix of manifests has a sigma. -/
theorem sigma_not_mem_of_mem_suffixes {suffix : String} (h : suffix ∈ Manifest.suffixes) :
  'σ' ∉ suffix.toList ∧ 'ς' ∉ suffix.toList
  := by
  revert suffix
  decide

theorem NamesManifest.accepts {p : Path} (h : NamesManifest p) :
  Manifest.accepts p
  := by
  obtain ⟨front, ending, hname, hsuffix⟩ := h
  rw [Manifest.accepts, List.any_eq_true]
  use Text.lower ending, hsuffix
  have hsigma := sigma_not_mem_of_mem_suffixes hsuffix
  rw [Text.lower, String.toList_ofList] at hsigma
  rw [List.isSuffixOf_iff_suffix, hname, Text.lower, Text.lower, String.toList_ofList,
    String.toList_ofList, String.toList_append]
  exact Text.lowerChars_suffix hsigma front.toList

/-! ### Finding -/

/-- The plugins in the order of their keys. -/
def sorted (plugins : List (Plugin ε)) : List (Plugin ε) :=
  plugins.mergeSort fun a b => decide (a.key ≤ b.key)

theorem sorted_perm (plugins : List (Plugin ε)) :
  (sorted plugins).Perm plugins
  := List.mergeSort_perm plugins _

theorem isValid_of_mem_sorted (hvalid : ∀ plugin ∈ plugins, plugin.IsValid) :
  ∀ plugin ∈ sorted plugins, plugin.IsValid
  := fun plugin hplugin => hvalid plugin ((sorted_perm plugins).mem_iff.mp hplugin)

/-- The order of the plugins does not matter if their names differ. -/
theorem sorted_eq_of_perm (hperm : plugins.Perm plugins') (hkeys : (plugins.map key).Nodup) :
  sorted plugins = sorted plugins'
  := mergeSort_eq_of_perm key hperm hkeys

theorem discover_eq (builtin : Introspector ε) (plugins : List (Plugin ε))
    (enabled : Option (List String)) :
  discover builtin plugins enabled
    = loadAll enabled [manifestsKey] (sorted plugins) >>= fun found =>
      if missing enabled (manifestsKey :: (sorted plugins).map key) = [] then
        pure ((if isWanted enabled manifestsKey then [builtin] else []) ++ found)
      else throw (.unknown (missing enabled (manifestsKey :: (sorted plugins).map key)))
  := by
  rw [discover, sorted]
  congr 1
  funext found
  split
  case h_1 hnone => rw [if_pos hnone]
  case h_2 hsome => rw [if_neg hsome]

/-- With different names, the plugins that are wanted are found in the order of their names, unless
an unknown one is asked for. -/
theorem exists_discover_eq (builtin : Introspector ε)
    (hvalid : ∀ plugin ∈ plugins, plugin.IsValid)
    (hkeys : HaveDistinctKeys manifestsKey plugins) (enabled : Option (List String)) :
  ∃ (chosen : List (Plugin ε)) (found : List (Introspector ε)),
    chosen.Perm (plugins.filter (isWanted enabled ·.key))
    ∧ chosen.Pairwise (·.key < ·.key) ∧ chosen.map load = found.map Except.ok
    ∧ (discover builtin plugins enabled).result
      = if missing enabled (manifestsKey :: (sorted plugins).map key) = [] then
          .ok ((if isWanted enabled manifestsKey then [builtin] else []) ++ found)
        else .error (.unknown (missing enabled (manifestsKey :: (sorted plugins).map key)))
  := by
  rw [HaveDistinctKeys, List.nodup_cons] at hkeys
  have hperm := sorted_perm plugins
  have htaken : ∀ plugin ∈ sorted plugins, plugin.key ∉ [manifestsKey] := by
    intro plugin hplugin hmem
    apply hkeys.1
    rw [← List.mem_singleton.mp hmem]
    exact List.mem_map_of_mem (hperm.mem_iff.mp hplugin)
  obtain ⟨found, hfound, hloads⟩ := exists_loadAll_eq_ok enabled (isValid_of_mem_sorted hvalid)
    ((hperm.map key).nodup_iff.mpr hkeys.2) htaken
  use (sorted plugins).filter (isWanted enabled ·.key), found
  refine ⟨hperm.filter _, (pairwise_lt_mergeSort key hkeys.2).filter _, hloads, ?_⟩
  rw [discover_eq, Logged.result_bind, hfound]
  change Logged.result (if _ then _ else _) = _
  split
  case isTrue => rfl
  case isFalse => rfl

/-- Names that are not all different are refused. -/
theorem exists_discover_eq_nameTaken (builtin : Introspector ε)
    (hvalid : ∀ plugin ∈ plugins, plugin.IsValid)
    (hkeys : ¬HaveDistinctKeys manifestsKey plugins) (enabled : Option (List String)) :
  ∃ name, (discover builtin plugins enabled).result = .error (.nameTaken name)
  := by
  have hperm := sorted_perm plugins
  have hclash : ¬(((sorted plugins).map key).Nodup
      ∧ ∀ plugin ∈ sorted plugins, plugin.key ∉ [manifestsKey]) := by
    rintro ⟨hnodup, htaken⟩
    apply hkeys
    rw [HaveDistinctKeys, List.nodup_cons, List.mem_map]
    refine ⟨?_, (hperm.map key).nodup_iff.mp hnodup⟩
    rintro ⟨plugin, hplugin, heq⟩
    apply htaken plugin (hperm.mem_iff.mpr hplugin)
    rw [heq]
    exact List.mem_singleton_self _
  obtain ⟨name, hname⟩ := exists_loadAll_eq_nameTaken enabled (isValid_of_mem_sorted hvalid) hclash
  use name
  rw [discover_eq, Logged.result_bind, hname]
  rfl

/-- Neither the order of the plugins nor that of the names that are asked for matters. -/
theorem discover_eq_of_perm (builtin : Introspector ε) (hperm : plugins.Perm plugins')
    (hkeys : HaveDistinctKeys manifestsKey plugins) (hask : AskAlike enabled enabled') :
  discover builtin plugins enabled = discover builtin plugins' enabled'
  := by
  have hsorted := sorted_eq_of_perm hperm (List.nodup_cons.mp hkeys).2
  rw [discover_eq, discover_eq, ← hsorted, loadAll_congr hask.isWanted_eq,
    hask.missing_eq, hask.isWanted_eq manifestsKey]

/-- If manifests are wanted, their reader comes first and takes every manifest. -/
theorem select?_of_discover_eq_ok {loadYaml : Yaml.Loader} {fail : Manifest.Failure → ε}
    (hvalid : ∀ plugin ∈ plugins, plugin.IsValid) (hwanted : isWanted enabled "manifest")
    {introspectors : List (Introspector ε)}
    (hok : (discover (.manifests loadYaml fail) plugins enabled).result = .ok introspectors)
    {p : Path} (hp : NamesManifest p) :
  Introspector.select? introspectors p = some (.manifests loadYaml fail)
  := by
  by_cases hkeys : HaveDistinctKeys manifestsKey plugins
  · obtain ⟨chosen, found, -, -, -, hresult⟩ := exists_discover_eq _ hvalid hkeys enabled
    rw [hok, manifestsKey, if_pos hwanted] at hresult
    split at hresult
    case isTrue =>
      have haccepts : (Introspector.manifests loadYaml fail).accepts p := hp.accepts
      rw [Except.ok.inj hresult, Introspector.select?, List.singleton_append, List.find?_cons,
        haccepts]
    case isFalse => contradiction
  · obtain ⟨name, hname⟩ := exists_discover_eq_nameTaken _ hvalid hkeys enabled
    rw [hok] at hname
    contradiction

/-- Plugins are found by their names alone.  If these differ, those that are wanted follow the
reader of manifests in the order of their names, unless an unknown name is asked for; the order of
the plugins and of the names does not matter.  If they do not differ they are refused.  So the
reader of manifests, if it is wanted, takes every manifest. -/
theorem discover_by_names (loadYaml : Yaml.Loader) (fail : Manifest.Failure → ε)
    (plugins : List (Plugin ε)) (hvalid : ∀ plugin ∈ plugins, plugin.IsValid)
    (enabled : Option (List String)) :
  (HaveDistinctKeys "manifest" plugins →
    ((∃ failure, (discover (.manifests loadYaml fail) plugins enabled).result = .error failure)
      ↔ ∃ name ∈ enabled.getD [], Text.lower name ≠ "manifest"
        ∧ ∀ plugin ∈ plugins, Text.lower name ≠ plugin.key)
    ∧ (∀ failure,
      (discover (.manifests loadYaml fail) plugins enabled).result = .error failure →
      ∃ names, failure = .unknown names)
    ∧ (∀ introspectors,
      (discover (.manifests loadYaml fail) plugins enabled).result = .ok introspectors →
      ∃ (chosen : List (Plugin ε)) (found : List (Introspector ε)),
        chosen.Perm (plugins.filter (isWanted enabled ·.key))
        ∧ chosen.Pairwise (·.key < ·.key) ∧ chosen.map load = found.map Except.ok
        ∧ introspectors
          = (if isWanted enabled "manifest" then [.manifests loadYaml fail] else []) ++ found)
    ∧ ∀ plugins' enabled', plugins.Perm plugins' → AskAlike enabled enabled' →
      discover (.manifests loadYaml fail) plugins enabled
        = discover (.manifests loadYaml fail) plugins' enabled')
  ∧ (¬HaveDistinctKeys "manifest" plugins →
    ∃ name, (discover (.manifests loadYaml fail) plugins enabled).result
      = .error (.nameTaken name))
  ∧ (isWanted enabled "manifest" → ∀ introspectors,
    (discover (.manifests loadYaml fail) plugins enabled).result = .ok introspectors →
    ∀ p, NamesManifest p →
      Introspector.select? introspectors p = some (.manifests loadYaml fail))
  := by
  refine ⟨fun hkeys => ?_, fun hkeys => exists_discover_eq_nameTaken _ hvalid hkeys enabled,
    fun hwanted _ hok _ hp => select?_of_discover_eq_ok hvalid hwanted hok hp⟩
  obtain ⟨chosen, found, hchosen, hlt, hloads, hresult⟩ :=
    exists_discover_eq (.manifests loadYaml fail) hvalid hkeys enabled
  have hunknown : missing enabled ("manifest" :: (sorted plugins).map key) ≠ []
      ↔ ∃ name ∈ enabled.getD [], Text.lower name ≠ "manifest"
        ∧ ∀ plugin ∈ plugins, Text.lower name ≠ plugin.key := by
    rw [ne_eq, missing_eq_nil_iff]
    push Not
    simp only [List.mem_cons, ((sorted_perm plugins).map key).mem_iff, List.mem_map, not_or,
      not_exists, not_and, ne_eq, eq_comm]
  rw [manifestsKey] at hresult
  rw [← hunknown, hresult]
  refine ⟨?_, ?_, ?_, fun _ _ hperm hask => discover_eq_of_perm _ hperm hkeys hask⟩
  · constructor
    · rintro ⟨failure, hfailure⟩ hnone
      rw [if_pos hnone] at hfailure
      contradiction
    · intro hsome
      exact ⟨_, if_neg hsome⟩
  · intro failure hfailure
    split at hfailure
    case isTrue => contradiction
    case isFalse => exact ⟨_, (Except.error.inj hfailure).symm⟩
  · intro introspectors hok
    split at hok
    case isTrue => exact ⟨chosen, found, hchosen, hlt, hloads, (Except.ok.inj hok).symm⟩
    case isFalse => contradiction

/-- A plugin that accepts nothing. -/
def silent (name : String) : Plugin Manifest.Failure where
  name := name
  loaded := .introspector { accepts := fun _ => false, inspect := fun _ _ => pure [] }

theorem discover_silent :
  let manifests : Introspector Manifest.Failure := .manifests (fun _ => .ok .null) id
  discover manifests [silent "Rust", silent "go"] (some ["manifest", "GO", "go"])
    = discover manifests [silent "go", silent "Rust"] (some ["Go", "Manifest"])
  ∧ ∃ name, (discover manifests [silent "Go", silent "go"] (some ["manifest"])).result
    = .error (.nameTaken name)
  := by
  intro manifests
  have hvalid (names : List String) : ∀ plugin ∈ names.map silent, plugin.IsValid := by
    intro plugin hplugin
    obtain ⟨name, -, rfl⟩ := List.mem_map.mp hplugin
    exact ⟨_, rfl⟩
  constructor
  · have h := (discover_by_names (fun _ => .ok .null) id _ (hvalid ["Rust", "go"])
      (some ["manifest", "GO", "go"])).1 (by decide)
    apply h.2.2.2
    · exact List.Perm.swap _ _ _
    · intro key
      have hlower : ["manifest", "GO", "go"].map Text.lower = ["manifest", "go", "go"] := by decide
      have hlower' : ["Go", "Manifest"].map Text.lower = ["go", "manifest"] := by decide
      rw [hlower, hlower']
      simp [or_comm]
  · exact (discover_by_names _ _ _ (hvalid ["Go", "go"]) (some ["manifest"])).2.1 (by decide)

end DocTable.Plugin
