import DocTable.Config
import DocTable.Proofs.Failing
import DocTable.Proofs.Path.Usable
import DocTable.Proofs.Value.Printed

/-!
# What a configuration says

Each field of a configuration is read from the value of one key alone (`Reads`).  A configuration is
read if all its fields are, and then it says what they say (`ofEntries_eq_ok_iff`).  Of the failures
only an unknown format is a defect of the map itself, and it is reported unless a path that is used
before the format fails first (`exists_isDefect_iff`).
-/

namespace DocTable

open Value (lookup? putEntry without)

namespace Config

variable {α β : Type} {root : Path} {entries entries' : List (Value × Value)} {name : String}
  {v : Value}

/-! ### Fields -/

/-- What is read of a map depends on the value of one key alone. -/
def Reads (name : String) (read : List (Value × Value) → α) : Prop :=
  ∀ ⦃entries entries'⦄, lookup? name entries = lookup? name entries' → read entries = read entries'

/-- What is made of a reading depends on the same name. -/
theorem Reads.comp {read : List (Value × Value) → α} (h : Reads name read) (f : α → β) :
  Reads name fun entries => f (read entries)
  := fun _ _ heq => congrArg f (h heq)

/-- A text is read at its name. -/
theorem reads_text? (name : String) :
  Reads name fun entries => text? entries name
  := by
  intro entries entries' h
  simp only [text?, h]

/-- A list of texts is read at its name. -/
theorem reads_texts (name : String) :
  Reads name fun entries => texts entries name
  := by
  intro entries entries' h
  simp only [texts, h]

/-- A truth value is read at its name. -/
theorem reads_truth? (name : String) :
  Reads name fun entries => truth? entries name
  := by
  intro entries entries' h
  simp only [truth?, h]

/-- The entries of a map are read at its name. -/
theorem reads_entriesOf (name : String) :
  Reads name fun entries => entriesOf entries name
  := by
  intro entries entries' h
  simp only [entriesOf, h]

/-- A path is read at its name. -/
theorem reads_path? (root : Path) (name : String) :
  Reads name fun entries => path? root entries name
  := (reads_text? name).comp _

/-- The base directory is read at one name. -/
theorem reads_baseOf (root : Path) :
  Reads "base_dir" (baseOf root)
  := by
  intro entries entries' h
  simp only [baseOf, reads_text? _ h]

/-- The format is read at one name. -/
theorem reads_formatOf :
  Reads "format" formatOf
  := by
  intro entries entries' h
  simp only [formatOf, reads_text? _ h]

/-- The names of introspectors are read at one name. -/
theorem reads_introspectorsOf :
  Reads "introspectors" introspectorsOf
  := by
  intro entries entries' h
  simp only [introspectorsOf, h, reads_texts _ h]

/-- What is read of a map without some name is unchanged, unless it is read from there. -/
theorem Reads.without {field : String} {read : List (Value × Value) → α} (h : Reads field read)
    (name : String) (entries : List (Value × Value)) :
  read (without name entries) = if name = field then read [] else read entries
  := by
  split
  case isTrue hname => exact h (by rw [Value.lookup?_without, if_pos hname.symm, lookup?])
  case isFalse hname => exact h (by rw [Value.lookup?_without, if_neg (Ne.symm hname)])

/-- To put a value that is read like no value at all is to leave its name out. -/
theorem Reads.putEntry_eq_without {field : String} {read : List (Value × Value) → α}
    (h : Reads field read) (hv : name = field → read [(.text name, v)] = read []) :
  read (putEntry (.text name) v entries) = read (Value.without name entries)
  := by
  rw [h.without]
  split
  case isTrue hname =>
    rw [← hv hname]
    exact h (by rw [Value.lookup?_putEntry, if_pos hname.symm, hname, Value.lookup?_cons_self])
  case isFalse hname => exact h (by rw [Value.lookup?_putEntry, if_neg (Ne.symm hname)])

/-! ### Results -/

/-- The fields of both maps are read alike. -/
structure SameFields (root : Path) (entries entries' : List (Value × Value)) : Prop where
  base : baseOf root entries = baseOf root entries'
  output : path? root entries "output" = path? root entries' "output"
  format : formatOf entries = formatOf entries'
  introspectors : introspectorsOf entries = introspectorsOf entries'
  page : pageOf (entriesOf entries "report") = pageOf (entriesOf entries' "report")
  templates : path? root (entriesOf entries "report") "templates_dir"
    = path? root (entriesOf entries' "report") "templates_dir"
  markdown : truth? (entriesOf entries "report") "markdown"
    = truth? (entriesOf entries' "report") "markdown"
  targets : texts entries "targets" = texts entries' "targets"
  exclude : texts entries "exclude" = texts entries' "exclude"

/-- Maps with the same fields give the same configuration. -/
theorem ofEntries_congr (h : SameFields root entries entries') :
  ofEntries root entries = ofEntries root entries'
  := by
  simp only [ofEntries, h.base, h.output, h.format, h.introspectors, h.page, h.templates,
    h.markdown, h.targets, h.exclude]

/-- All fields are read, and the configuration has what is read. -/
structure Says (root : Path) (entries : List (Value × Value)) (config : Config) : Prop where
  directory : config.root = root
  base : baseOf root entries = .ok config.base
  output : path? root entries "output" = .ok config.output
  format : formatOf entries = .ok config.format
  introspectors : introspectorsOf entries = .ok config.introspectors
  page : pageOf (entriesOf entries "report") = .ok config.page
  templates : path? root (entriesOf entries "report") "templates_dir" = .ok config.templates
  markdown : (truth? (entriesOf entries "report") "markdown").getD true = config.markdown
  targets : texts entries "targets" = .ok config.targets
  exclude : texts entries "exclude" = .ok config.exclude

/-- A configuration is what all fields say, each by itself. -/
theorem ofEntries_eq_ok_iff {config : Config} :
  ofEntries root entries = .ok config ↔ Says root entries config
  := by
  constructor
  · intro h
    obtain ⟨base, hbase, h⟩ := exists_of_bind_eq_ok h
    obtain ⟨output, houtput, h⟩ := exists_of_bind_eq_ok h
    obtain ⟨format, hformat, h⟩ := exists_of_bind_eq_ok h
    obtain ⟨introspectors, hintrospectors, h⟩ := exists_of_bind_eq_ok h
    obtain ⟨page, hpage, h⟩ := exists_of_bind_eq_ok h
    obtain ⟨templates, htemplates, h⟩ := exists_of_bind_eq_ok h
    obtain ⟨targets, htargets, h⟩ := exists_of_bind_eq_ok h
    obtain ⟨exclude, hexclude, h⟩ := exists_of_bind_eq_ok h
    obtain rfl := Except.ok.inj h
    exact ⟨rfl, hbase, houtput, hformat, hintrospectors, hpage, htemplates, rfl, htargets, hexclude⟩
  · rintro ⟨rfl, hbase, houtput, hformat, hintrospectors, hpage, htemplates, hmarkdown, htargets,
      hexclude⟩
    dsimp only [ofEntries]
    rw [hbase, houtput, hformat, hintrospectors, hpage, htemplates, htargets, hexclude, hmarkdown]
    rfl

/-! ### Texts -/

/-- A scalar that can be printed gives its text, and none if that is empty. -/
theorem text?_of_plain {text : String} (hv : lookup? name entries = some v) (hword : v.isWord)
    (htext : v.plain = .ok text) :
  text? entries name = .ok (if text = "" then none else some text)
  := by
  rw [text?, hv, Option.filter_some, if_pos hword, Option.mapM_some, htext]
  by_cases hempty : text = ""
  · rw [if_pos hempty, hempty]
    rfl
  · rw [if_neg hempty]
    simp only [bind, Except.bind, Functor.map, Except.map, Except.mapError, pure, Except.pure]
    rw [Option.filter_some, if_pos (by simpa using hempty)]

/-- A scalar that cannot be printed is refused. -/
theorem text?_of_plain_error {e : Unprintable} (hv : lookup? name entries = some v)
    (hword : v.isWord) (he : v.plain = .error e) :
  text? entries name = .error (.unprintable e)
  := by
  rw [text?, hv, Option.filter_some, if_pos hword, Option.mapM_some, he]
  rfl

/-- Whatever is no scalar gives no text. -/
theorem text?_of_no_scalar (h : ∀ v, lookup? name entries = some v → ¬v.isWord) :
  text? entries name = .ok none
  := by
  have hscalar : (lookup? name entries).filter Value.isWord = none :=
    Option.filter_eq_none_iff.mpr h
  rw [text?, hscalar]
  rfl

/-- A text that is read is that of a scalar. -/
theorem exists_of_text? {text : String} (h : text? entries name = .ok (some text)) :
  ∃ v, lookup? name entries = some v ∧ v.isWord ∧ v.plain = .ok text ∧ text ≠ ""
  := by
  by_cases hscalar : ∃ v, lookup? name entries = some v ∧ v.isWord
  · obtain ⟨v, hv, hword⟩ := hscalar
    cases htext : v.plain with
    | error => simp [text?_of_plain_error hv hword htext] at h
    | ok written =>
      rw [text?_of_plain hv hword htext] at h
      by_cases hempty : written = ""
      · simp [hempty] at h
      · obtain rfl : written = text := by simpa [hempty] using h
        exact ⟨v, hv, hword, htext, hempty⟩
  · simp [text?_of_no_scalar fun v hv hword => hscalar ⟨v, hv, hword⟩] at h

/-- Of the scalars only an integer with too many digits gives no text. -/
theorem exists_text?_iff :
  (∃ text, text? entries name = .ok text)
    ↔ ∀ n, lookup? name entries = some (.int n) →
        Decimal.digitCount n.natAbs ≤ Decimal.longestInteger
  := by
  constructor
  · rintro ⟨text, htext⟩ n hn
    by_contra hlong
    have hplain : (Value.int n).plain = .error .tooLong := by
      change integerText n = _
      rw [integerText, Decimal.integerText?, if_pos (Nat.lt_of_not_le hlong)]
    simp [text?_of_plain_error hn rfl hplain] at htext
  · intro h
    by_cases hscalar : ∃ v, lookup? name entries = some v ∧ v.isWord
    · obtain ⟨v, hv, hword⟩ := hscalar
      have hwritable : v.IsWritable := by
        intro n hn
        cases hn with
        | here => exact h n hv
        | _ => contradiction
      cases htext : v.plain with
      | error e => exact (hwritable.plain (P := fun _ => False) e htext).elim
      | ok text => exact ⟨_, text?_of_plain hv hword htext⟩
    · exact ⟨none, text?_of_no_scalar fun v hv hword => hscalar ⟨v, hv, hword⟩⟩

/-! ### Failures -/

/-- The failure is a defect of the configuration itself.  The others come from the files that are
read and from single values. -/
def Failure.IsDefect : Failure → Prop
  | .noMap | .unparsable .. | .unknownFormat _ => True
  | _ => False

/-- The format is a scalar, and what it is written as is not empty and, in lower case, none of the
words for formats. -/
def NamesOtherFormat (entries : List (Value × Value)) : Prop :=
  ∃ v text, lookup? "format" entries = some v ∧ v.isWord ∧ v.plain = .ok text ∧ text ≠ ""
    ∧ Text.lower text ∉ ["html", "json"]

/-- The paths that are used before the format is looked at can be used: none is an integer with too
many digits, and the file system can be asked for the base directory, which is resolved. -/
structure HasUsablePaths (root : Path) (entries : List (Value × Value)) : Prop where
  digits : ∀ name ∈ ["base_dir", "output"], ∀ n, lookup? name entries = some (.int n) →
    Decimal.digitCount n.natAbs ≤ Decimal.longestInteger
  base : ∀ v text, lookup? "base_dir" entries = some v → v.isWord → v.plain = .ok text → text ≠ "" →
    (root.join (.ofText text)).IsUsable

/-- A failure that stands for one of another kind is no defect if none of these is. -/
theorem failsOnly_mapError {ε : Type} {make : ε → Failure} (h : ∀ cause, ¬(make cause).IsDefect)
    (r : Except ε α) :
  FailsOnly (¬·.IsDefect) (r.mapError make)
  := FailsOnly.mapError fun cause _ => h cause

/-- Reading a text finds no defect. -/
theorem failsOnly_text? :
  FailsOnly (¬·.IsDefect) (text? entries name)
  := (failsOnly_mapError (fun _ => id) _).bind fun _ _ => failsOnly_ok _

/-- Reading a list of texts finds no defect. -/
theorem failsOnly_texts :
  FailsOnly (¬·.IsDefect) (texts entries name)
  := by
  unfold texts
  split
  case h_2 => exact failsOnly_mapError (fun _ => id) _
  case h_1 | h_3 | h_4 => apply failsOnly_ok

/-- Reading a path finds no defect. -/
theorem failsOnly_path? :
  FailsOnly (¬·.IsDefect) (path? root entries name)
  := failsOnly_text?.map _

/-- Reading the base directory finds no defect: a path that cannot be used is a failure of the file
system. -/
theorem failsOnly_baseOf :
  FailsOnly (¬·.IsDefect) (baseOf root entries)
  := by
  refine failsOnly_text?.bind fun given _ => ?_
  cases given with
  | none => apply failsOnly_ok
  | some text => exact failsOnly_mapError (fun _ => id) _

/-- Reading the names of introspectors finds no defect. -/
theorem failsOnly_introspectorsOf :
  FailsOnly (¬·.IsDefect) (introspectorsOf entries)
  := by
  unfold introspectorsOf
  split
  case h_1 | h_2 => apply failsOnly_ok
  case h_3 => exact failsOnly_texts.map _

/-- Reading the settings of the page finds no defect. -/
theorem failsOnly_pageOf :
  FailsOnly (¬·.IsDefect) (pageOf entries)
  := by
  refine failsOnly_text?.bind fun _ _ => failsOnly_text?.bind fun _ _ => ?_
  refine failsOnly_text?.bind fun _ _ => failsOnly_text?.bind fun _ _ => ?_
  exact failsOnly_text?.bind fun _ _ => failsOnly_ok _

/-- Two words name formats. -/
theorem ofWord?_eq_none_iff {word : String} :
  OutputFormat.ofWord? word = none ↔ word ∉ ["html", "json"]
  := by
  rw [OutputFormat.ofWord?, List.find?_eq_none]
  simp [OutputFormat.all, OutputFormat.word, eq_comm]

/-- The format is a defect only if it names another one. -/
theorem failsOnly_formatOf :
  FailsOnly (fun failure => failure.IsDefect → NamesOtherFormat entries) (formatOf entries)
  := by
  refine (failsOnly_text?.imp fun _ hnot h => absurd h hnot).bind fun given hgiven => ?_
  extract_lets word
  split
  case h_1 => apply failsOnly_ok
  case h_2 hword =>
    apply failsOnly_error
    intro _
    cases given with
    | none => exact absurd hword (by decide)
    | some text =>
      obtain ⟨v, hv, hscalar, hplain, hne⟩ := exists_of_text? hgiven
      exact ⟨v, text, hv, hscalar, hplain, hne, ofWord?_eq_none_iff.mp hword⟩

/-- The name of another format is refused. -/
theorem NamesOtherFormat.formatOf (h : NamesOtherFormat entries) :
  ∃ word, formatOf entries = .error (.unknownFormat word)
  := by
  obtain ⟨v, text, hv, hscalar, hplain, hne, hword⟩ := h
  refine ⟨Text.lower text, ?_⟩
  rw [Config.formatOf, text?_of_plain hv hscalar hplain, if_neg hne]
  simp only [bind, Except.bind, Option.getD_some, ofWord?_eq_none_iff.mpr hword]
  rfl

/-- A path is read if its text is: it is not looked up. -/
theorem exists_path?_iff :
  (∃ output, path? root entries name = .ok output) ↔ ∃ text, text? entries name = .ok text
  := by
  rw [path?]
  cases text? entries name with
  | ok text => exact ⟨fun _ => ⟨text, rfl⟩, fun _ => ⟨_, rfl⟩⟩
  | error e => exact ⟨nofun, nofun⟩

/-- A base directory is found if the file system can be asked for it, from the directory of the
configuration on. -/
theorem exists_baseOf_iff :
  (∃ base, baseOf root entries = .ok base)
    ↔ ∃ text, text? entries "base_dir" = .ok text
      ∧ ∀ s ∈ text, (root.join (.ofText s)).IsUsable
  := by
  rw [baseOf]
  cases text? entries "base_dir" with
  | error e => exact ⟨nofun, nofun⟩
  | ok text =>
    cases text with
    | none => exact ⟨fun _ => ⟨none, rfl, nofun⟩, fun _ => ⟨root, rfl⟩⟩
    | some s =>
      have hresolve :
          (∃ base, (root.join (.ofText s)).resolve root = .ok base)
            ↔ (root.join (.ofText s)).IsUsable :=
        Path.exists_resolve_iff
      simp only [bind, Except.bind, Except.ok.injEq, exists_eq_left', Option.mem_def,
        Option.some.injEq, forall_eq', ← hresolve]
      cases (root.join (.ofText s)).resolve root with
      | ok base => exact ⟨fun _ => ⟨base, rfl⟩, fun _ => ⟨base, rfl⟩⟩
      | error fault => exact ⟨nofun, nofun⟩

/-- The paths can be used if and only if they are read. -/
theorem hasUsablePaths_iff (root : Path) :
  HasUsablePaths root entries
    ↔ (∃ base, baseOf root entries = .ok base) ∧ ∃ output, path? root entries "output" = .ok output
  := by
  rw [exists_baseOf_iff, exists_path?_iff, exists_text?_iff]
  constructor
  · rintro ⟨hdigits, hbase⟩
    obtain ⟨text, htext⟩ := exists_text?_iff.mpr (hdigits "base_dir" (by simp))
    refine ⟨⟨text, htext, ?_⟩, hdigits "output" (by simp)⟩
    rintro s rfl
    obtain ⟨v, hv, hscalar, hplain, hne⟩ := exists_of_text? htext
    exact hbase v s hv hscalar hplain hne
  · rintro ⟨⟨text, htext, hbase⟩, houtput⟩
    constructor
    case digits =>
      intro name hname
      obtain rfl | rfl : name = "base_dir" ∨ name = "output" := by simpa using hname
      · exact exists_text?_iff.mp ⟨text, htext⟩
      · exact houtput
    case base =>
      intro v s hv hscalar hplain hne
      rw [text?_of_plain hv hscalar hplain, if_neg hne] at htext
      exact hbase s (Except.ok.inj htext).symm

/-- A map has a defect only in its format, and only if the paths that are used before can be used.
-/
theorem failsOnly_ofEntries :
  FailsOnly (fun failure => failure.IsDefect →
      NamesOtherFormat entries ∧ HasUsablePaths root entries)
    (ofEntries root entries)
  := by
  have hother {γ : Type} {r : Except Failure γ} (hr : FailsOnly (¬·.IsDefect) r) :
      FailsOnly (fun failure => failure.IsDefect →
        NamesOtherFormat entries ∧ HasUsablePaths root entries) r :=
    hr.imp fun _ hnot hdefect => absurd hdefect hnot
  refine (hother failsOnly_baseOf).bind fun base hbase => ?_
  refine (hother failsOnly_path?).bind fun output houtput => ?_
  have hpaths : HasUsablePaths root entries :=
    (hasUsablePaths_iff root).mpr ⟨⟨base, hbase⟩, ⟨output, houtput⟩⟩
  refine (failsOnly_formatOf.imp fun _ hformat hdefect => ⟨hformat hdefect, hpaths⟩).bind ?_
  intro format _
  refine (hother failsOnly_introspectorsOf).bind fun _ _ => ?_
  refine (hother failsOnly_pageOf).bind fun _ _ => (hother failsOnly_path?).bind fun _ _ => ?_
  refine (hother failsOnly_texts).bind fun _ _ => (hother failsOnly_texts).bind fun _ _ => ?_
  apply failsOnly_ok

/-- A defect of the map is an unknown format, and it is found once the paths have been used. -/
theorem exists_isDefect_iff :
  (∃ failure, ofEntries root entries = .error failure ∧ failure.IsDefect)
    ↔ NamesOtherFormat entries ∧ HasUsablePaths root entries
  := by
  constructor
  · rintro ⟨failure, h, hdefect⟩
    exact failsOnly_ofEntries failure h hdefect
  · rintro ⟨hformat, hpaths⟩
    obtain ⟨⟨base, hbase⟩, ⟨output, houtput⟩⟩ := (hasUsablePaths_iff root).mp hpaths
    obtain ⟨word, hformat⟩ := hformat.formatOf
    refine ⟨.unknownFormat word, ?_, trivial⟩
    rw [ofEntries, hbase, houtput, hformat]
    rfl

end Config

end DocTable
