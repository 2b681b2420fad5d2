import DocTable.Proofs.Config.Reading
import DocTable.Yaml.Load

/-!
# Values that a configuration has no use for

A value of an unexpected kind is taken for no value at all, at the names of a configuration and at
those of its report (`Place.Ignores`): the map is read as if its name were left out.  Without a name
a map gives the same configuration, save for the field of that name, which has its default
(`reset`).  A file that holds a map is refused as a configuration only for its format
(`load_ignoresUnusable`).
-/

namespace DocTable

open Value (lookup? putEntry without)

namespace Value

/-- The value gives no text: it is null, the empty text, a date, a moment or a list. -/
inductive IsNoText : Value → Prop where
  | null : IsNoText null
  | empty : IsNoText (text "")
  | date (d : Date) : IsNoText (date d)
  | dateTime (t : DateTime) : IsNoText (dateTime t)
  | list {v : Value} {items : List Value} (h : v.unfold = list items) : IsNoText v

/-- The value gives no list of texts: it is null, a number or truth value, a date, a moment or a
map. -/
inductive IsNoList : Value → Prop where
  | null : IsNoList null
  | bool (b : Bool) : IsNoList (bool b)
  | int (n : Int) : IsNoList (int n)
  | float (x : Float) : IsNoList (float x)
  | date (d : Date) : IsNoList (date d)
  | dateTime (t : DateTime) : IsNoList (dateTime t)
  | map {v : Value} {entries : List (Value × Value)} (h : v.unfold = map entries) : IsNoList v

end Value

namespace Config

variable {α : Type} {root : Path} {entries report : List (Value × Value)} {name : String}
  {v : Value} {config : Config}

/-! ### Places -/

/-- The map with its report changed, if it has one. -/
def changeReport (f : List (Value × Value) → List (Value × Value))
    (entries : List (Value × Value)) : List (Value × Value) :=
  match (lookup? "report" entries).map Value.unfold with
  | some (.map report) => putEntry (.text "report") (.map (f report)) entries
  | _ => entries

/-- A name of the configuration or one of its report. -/
inductive Place where
  | key (name : String)
  | inReport (name : String)

/-- The map with the value `v` at the place. -/
def Place.set (v : Value) : Place → List (Value × Value) → List (Value × Value)
  | key name => putEntry (.text name) v
  | inReport name => changeReport (putEntry (.text name) v)

/-- The map without the name of the place. -/
def Place.erase : Place → List (Value × Value) → List (Value × Value)
  | key name => without name
  | inReport name => changeReport (without name)

/-- A value of this kind is of no use at the place. -/
inductive Place.Ignores : Place → Value → Prop where
  | text {name : String} {v : Value} (hname : name ∈ ["base_dir", "output", "format", "report"])
      (hv : v.IsNoText) : Ignores (key name) v
  | list {name : String} {v : Value} (hname : name ∈ ["targets", "exclude"]) (hv : v.IsNoList) :
      Ignores (key name) v
  | inReport (name : String) {v : Value} (hv : v.IsNoText) : Ignores (inReport name) v

/-- The settings with the default at a name. -/
def resetPage (name : String) (page : Report.Settings) : Report.Settings where
  title := if name = "title" then Report.defaultTitle else page.title
  tagline := if name = "tagline" then Report.defaultTagline else page.tagline
  footer := if name = "footer" then "" else page.footer
  theme := if name = "theme" then "default" else page.theme
  customStyle := if name = "custom_style" then "" else page.customStyle

/-- The configuration with the default at a place. -/
def reset (config : Config) : Place → Config
  | .key name =>
    { root := config.root
      base := if name = "base_dir" then config.root else config.base
      targets := if name = "targets" then [] else config.targets
      exclude := if name = "exclude" then [] else config.exclude
      introspectors := if name = "introspectors" then none else config.introspectors
      output := if name = "output" then none else config.output
      format := if name = "format" then .html else config.format
      page := if name = "report" then {} else config.page
      markdown := if name = "report" then true else config.markdown
      templates := if name = "report" then none else config.templates }
  | .inReport name =>
    { config with
      page := resetPage name config.page
      markdown := if name = "markdown" then true else config.markdown
      templates := if name = "templates_dir" then none else config.templates }

/-! ### Names that are left out -/

theorem Reads.without_eq_ok {field : String} {read : List (Value × Value) → Except Failure α}
    {a default : α} (h : Reads field read) (ha : read entries = .ok a)
    (hdefault : read [] = .ok default) :
  read (Value.without name entries) = .ok (if name = field then default else a)
  := by
  rw [h.without, ha, hdefault]
  split <;> rfl

theorem Says.without (h : Says root entries config) (name : String) :
  Says root (without name entries) (config.reset (.key name)) where
  directory := h.directory
  base := (reads_baseOf root).without_eq_ok h.base (by rw [h.directory]; rfl)
  output := (reads_path? root "output").without_eq_ok h.output rfl
  format := reads_formatOf.without_eq_ok h.format rfl
  introspectors := reads_introspectorsOf.without_eq_ok h.introspectors rfl
  page := ((reads_entriesOf "report").comp pageOf).without_eq_ok h.page rfl
  templates := ((reads_entriesOf "report").comp (path? root · "templates_dir")).without_eq_ok
    h.templates rfl
  markdown := by
    have hreads := (reads_entriesOf "report").comp fun report =>
      (truth? report "markdown").getD true
    rw [hreads.without, h.markdown]
    rfl
  targets := (reads_texts "targets").without_eq_ok h.targets rfl
  exclude := (reads_texts "exclude").without_eq_ok h.exclude rfl

theorem pageOf_without {page : Report.Settings} (h : pageOf report = .ok page) (name : String) :
  pageOf (without name report) = .ok (resetPage name page)
  := by
  obtain ⟨title, htitle, h⟩ := exists_of_bind_eq_ok h
  obtain ⟨tagline, htagline, h⟩ := exists_of_bind_eq_ok h
  obtain ⟨footer, hfooter, h⟩ := exists_of_bind_eq_ok h
  obtain ⟨theme, htheme, h⟩ := exists_of_bind_eq_ok h
  obtain ⟨style, hstyle, h⟩ := exists_of_bind_eq_ok h
  obtain rfl := Except.ok.inj h
  have hwithout {field : String} {text : Option String} (htext : text? report field = .ok text) :
      text? (Value.without name report) field = .ok (if name = field then none else text) :=
    (reads_text? field).without_eq_ok htext rfl
  have hgetD (p : Prop) [Decidable p] (text : Option String) (default : String) :
      (if p then none else text).getD default = if p then default else text.getD default := by
    split <;> rfl
  rw [pageOf, hwithout htitle, hwithout htagline, hwithout hfooter, hwithout htheme,
    hwithout hstyle]
  simp only [bind, Except.bind, pure, Except.pure, resetPage, hgetD]

theorem Reads.changeReport {field : String} {read : List (Value × Value) → α}
    (h : Reads field read) (hne : field ≠ "report")
    (f : List (Value × Value) → List (Value × Value)) :
  read (changeReport f entries) = read entries
  := by
  unfold Config.changeReport
  split
  · exact h (by rw [Value.lookup?_putEntry, if_neg hne])
  · rfl

theorem Reads.changeReport_congr {field : String} {read : List (Value × Value) → α}
    (h : Reads field read) (hne : field ≠ "report")
    (f g : List (Value × Value) → List (Value × Value)) :
  read (Config.changeReport f entries) = read (Config.changeReport g entries)
  := by
  rw [h.changeReport hne, h.changeReport hne]

/-- Only a report that is a map is changed. -/
theorem changeReport_cases (entries : List (Value × Value)) :
  (∀ f, changeReport f entries = entries) ∧ entriesOf entries "report" = []
    ∨ ∀ f, entriesOf (changeReport f entries) "report" = f (entriesOf entries "report")
  := by
  unfold changeReport
  split
  case h_1 report hreport =>
    right
    intro f
    rw [entriesOf, Value.lookup?_putEntry, if_pos rfl, entriesOf, hreport]
    rfl
  case h_2 hnone =>
    left
    refine ⟨fun _ => rfl, ?_⟩
    unfold entriesOf
    split
    case h_1 report hreport => exact (hnone report hreport).elim
    case h_2 => rfl

theorem entriesOf_changeReport_without (name : String) (entries : List (Value × Value)) :
  entriesOf (changeReport (without name) entries) "report"
    = without name (entriesOf entries "report")
  := by
  obtain ⟨hsame, hnone⟩ | hreport := changeReport_cases entries
  · rw [hsame, hnone]
    rfl
  · exact hreport _

theorem Says.changeReport (h : Says root entries config) (name : String) :
  Says root (changeReport (Value.without name) entries) (config.reset (.inReport name)) where
  directory := h.directory
  base := ((reads_baseOf root).changeReport (by decide) _).trans h.base
  output := ((reads_path? root "output").changeReport (by decide) _).trans h.output
  format := (reads_formatOf.changeReport (by decide) _).trans h.format
  introspectors := (reads_introspectorsOf.changeReport (by decide) _).trans h.introspectors
  page := by
    rw [entriesOf_changeReport_without]
    exact pageOf_without h.page name
  templates := by
    rw [entriesOf_changeReport_without]
    exact (reads_path? root "templates_dir").without_eq_ok h.templates rfl
  markdown := by
    rw [entriesOf_changeReport_without, (reads_truth? "markdown").without,
      apply_ite (Option.getD · true), h.markdown]
    rfl
  targets := ((reads_texts "targets").changeReport (by decide) _).trans h.targets
  exclude := ((reads_texts "exclude").changeReport (by decide) _).trans h.exclude

/-- Without the name of a place the configuration is the same, but for the default there. -/
theorem ofEntries_erase (h : ofEntries root entries = .ok config) (place : Place) :
  ofEntries root (place.erase entries) = .ok (config.reset place)
  := by
  rw [ofEntries_eq_ok_iff] at *
  cases place with
  | key name => exact h.without name
  | inReport name => exact h.changeReport name

/-! ### Values of no use -/

/-- The only scalar that gives no text is the empty text. -/
theorem eq_empty_of_isNoText (hv : v.IsNoText) (hword : v.isWord) :
  v = .text ""
  := by
  cases hv with
  | empty => rfl
  | list h => cases v <;> contradiction
  | _ => contradiction

theorem text?_ignores (hv : v.IsNoText) (name : String) :
  text? [(.text name, v)] name = text? [] name
  := by
  have hlookup := Value.lookup?_cons_self name v []
  by_cases hword : v.isWord
  · obtain rfl := eq_empty_of_isNoText hv hword
    rw [text?_of_plain hlookup hword rfl]
    rfl
  · rw [text?_of_no_scalar]
    · rfl
    · intro w hw
      rwa [← Option.some.inj (hlookup.symm.trans hw)]

theorem texts_ignores (hv : v.IsNoList) (name : String) :
  texts [(.text name, v)] name = texts [] name
  := by
  rw [texts, Value.lookup?_cons_self]
  cases hv with
  | map h => rw [Option.map_some, h]; rfl
  | _ => rfl

theorem truth?_ignores (hv : v.IsNoText) (name : String) :
  truth? [(.text name, v)] name = truth? [] name
  := by
  rw [truth?, Value.lookup?_cons_self]
  cases hv with
  | empty =>
    have hempty : truthOf? "" = none := by decide
    exact hempty
  | list h => cases v <;> first | contradiction | rfl
  | _ => rfl

theorem entriesOf_ignores (hv : v.IsNoText) (name : String) :
  entriesOf [(.text name, v)] name = entriesOf [] name
  := by
  rw [entriesOf, Value.lookup?_cons_self]
  cases hv with
  | list h => rw [Option.map_some, h]; rfl
  | _ => rfl

theorem Place.Ignores.isNoText (h : (key name).Ignores v) (hname : name ∉ ["targets", "exclude"]) :
  v.IsNoText
  := by
  cases h with
  | text _ hv => exact hv
  | list hmem _ => contradiction

theorem Place.Ignores.isNoList (h : (key name).Ignores v)
    (hname : name ∉ ["base_dir", "output", "format", "report"]) :
  v.IsNoList
  := by
  cases h with
  | text hmem _ => contradiction
  | list _ hv => exact hv

theorem sameFields_key (h : (Place.key name).Ignores v) :
  SameFields root (putEntry (.text name) v entries) (without name entries)
  := by
  have hreport {β : Type} (read : List (Value × Value) → β) :
      read (entriesOf (putEntry (.text name) v entries) "report")
        = read (entriesOf (without name entries) "report") := by
    apply congrArg read
    apply (reads_entriesOf "report").putEntry_eq_without
    rintro rfl
    exact entriesOf_ignores (h.isNoText (by decide)) "report"
  constructor
  case base =>
    apply (reads_baseOf root).putEntry_eq_without
    rintro rfl
    rw [baseOf, text?_ignores (h.isNoText (by decide)), baseOf]
  case output =>
    apply (reads_path? root "output").putEntry_eq_without
    rintro rfl
    rw [path?, text?_ignores (h.isNoText (by decide)), path?]
  case format =>
    apply reads_formatOf.putEntry_eq_without
    rintro rfl
    rw [formatOf, text?_ignores (h.isNoText (by decide)), formatOf]
  case introspectors =>
    -- No value is ignored there: every value but null gives a list.
    apply reads_introspectorsOf.putEntry_eq_without
    rintro rfl
    cases h <;> contradiction
  case page => exact hreport pageOf
  case templates => exact hreport (path? root · "templates_dir")
  case markdown => exact hreport (truth? · "markdown")
  case targets =>
    apply (reads_texts "targets").putEntry_eq_without
    rintro rfl
    exact texts_ignores (h.isNoList (by decide)) "targets"
  case exclude =>
    apply (reads_texts "exclude").putEntry_eq_without
    rintro rfl
    exact texts_ignores (h.isNoList (by decide)) "exclude"

theorem sameFields_inReport (hv : v.IsNoText) (name : String) :
  SameFields root (changeReport (putEntry (.text name) v) entries)
    (changeReport (without name) entries)
  := by
  obtain ⟨hsame, -⟩ | hreport := changeReport_cases entries
  · rw [hsame, hsame]
    constructor <;> rfl
  · have htext (field : String) :
        text? (putEntry (.text name) v (entriesOf entries "report")) field
          = text? (without name (entriesOf entries "report")) field := by
      apply (reads_text? field).putEntry_eq_without
      rintro rfl
      exact text?_ignores hv name
    constructor
    case base => exact (reads_baseOf root).changeReport_congr (by decide) _ _
    case output => exact (reads_path? root "output").changeReport_congr (by decide) _ _
    case format => exact reads_formatOf.changeReport_congr (by decide) _ _
    case introspectors => exact reads_introspectorsOf.changeReport_congr (by decide) _ _
    case page => simp only [hreport, pageOf, htext]
    case templates => simp only [hreport, path?, htext]
    case markdown =>
      rw [hreport, hreport]
      apply (reads_truth? "markdown").putEntry_eq_without
      rintro rfl
      exact truth?_ignores hv "markdown"
    case targets => exact (reads_texts "targets").changeReport_congr (by decide) _ _
    case exclude => exact (reads_texts "exclude").changeReport_congr (by decide) _ _

/-- A value of no use is taken for no value. -/
theorem ofEntries_set {place : Place} (h : place.Ignores v) :
  ofEntries root (place.set v entries) = ofEntries root (place.erase entries)
  := by
  apply ofEntries_congr
  cases place with
  | key name => exact sameFields_key h
  | inReport name =>
    cases h with
    | inReport _ hv => exact sameFields_inReport hv name

/-! ### Files -/

/-- The path names a configuration file in the directory `root`, and the file holds the map. -/
def Holds (loadYaml : Yaml.Loader) (disk : Disk) (p root : Path) (entries : List (Value × Value)) :
    Prop :=
  ∃ file v, fileOf disk p = .ok file ∧ file.parent = root ∧ disk.hasPath file = .ok true
    ∧ valueOf loadYaml disk file = .ok v ∧ v.unfold = .map entries

theorem load_eq_ofEntries {loadYaml : Yaml.Loader} {disk : Disk} {p : Path}
    (h : Holds loadYaml disk p root entries) :
  load loadYaml disk p = ofEntries root entries
  := by
  obtain ⟨file, v, hfile, rfl, hpath, hvalue, hmap⟩ := h
  simp only [load, bind, Except.bind, hfile, hpath, Except.mapError, hvalue, hmap, if_true]

/-- The root directory with a configuration file. -/
def diskOf (text : String) : Disk where
  tree := .directory [(fileName, .file (Text.Utf8.encode text))]
  here := { root := .absolute }

/-- The entry of a text under a text. -/
def textField? : Value × Value → Option (String × String)
  | (.text name, .text s) => some (name, s)
  | _ => none

/-- The texts of a map that has nothing but texts. -/
def textFields? : Value → Option (List (String × String))
  | .map entries => entries.mapM textField?
  | _ => none

/-- The entries with some texts. -/
def ofFields (fields : List (String × String)) : List (Value × Value) :=
  fields.map fun field => (.text field.1, .text field.2)

theorem eq_of_textField? {entry : Value × Value} {field : String × String}
    (h : textField? entry = some field) :
  entry = (.text field.1, .text field.2)
  := by
  unfold textField? at h
  split at h
  case h_1 => obtain rfl := Option.some.inj h; rfl
  case h_2 => contradiction

theorem eq_map_of_textFields? {fields : List (String × String)} (h : textFields? v = some fields) :
  v = .map (ofFields fields)
  := by
  unfold textFields? at h
  split at h
  case h_1 entries =>
    apply congrArg
    induction entries generalizing fields with
    | nil =>
      obtain rfl := Option.some.inj h
      rfl
    | cons entry entries ih =>
      rw [List.mapM_cons] at h
      obtain ⟨first, hfirst, h⟩ := Option.bind_eq_some_iff.mp h
      obtain ⟨rest, hrest, h⟩ := Option.bind_eq_some_iff.mp h
      obtain rfl := Option.some.inj h
      rw [eq_of_textField? hfirst, ih hrest]
      rfl
  case h_2 => contradiction

theorem eq_ok_of_toOption {ε β : Type} {r : Except ε β} {b : β} (h : r.toOption = some b) :
  r = .ok b
  := by
  cases r with
  | ok => exact congrArg _ (Option.some.inj h)
  | error => contradiction

theorem holds_ofFields {loadYaml : Yaml.Loader} {disk : Disk} {p : Path} (file : Path)
    {fields : List (String × String)} (hfile : (fileOf disk p).toOption = some file)
    (hpath : (disk.hasPath file).toOption = some true)
    (hfields : (valueOf loadYaml disk file).toOption.bind textFields? = some fields) :
  Holds loadYaml disk p file.parent (ofFields fields)
  := by
  obtain ⟨v, hv, htexts⟩ := Option.bind_eq_some_iff.mp hfields
  refine ⟨file, v, eq_ok_of_toOption hfile, rfl, eq_ok_of_toOption hpath, eq_ok_of_toOption hv, ?_⟩
  rw [eq_map_of_textFields? htexts]
  rfl

/-! ### Loading -/

/-- A file that holds a map is read by the map alone.  The map is refused as a configuration for its
format and nothing else, once the paths that are used before have been found usable.  A value of no
use at some place is read as if its name were left out, and then every other field is as it was. -/
theorem load_ignoresUnusable {loadYaml : Yaml.Loader} {disk : Disk} {p : Path}
    (h : Holds loadYaml disk p root entries) :
  load loadYaml disk p = ofEntries root entries
    ∧ ((∃ failure, load loadYaml disk p = .error failure ∧ failure.IsDefect)
      ↔ NamesOtherFormat entries ∧ HasUsablePaths root entries)
    ∧ (∀ place v, Place.Ignores place v →
      ofEntries root (place.set v entries) = ofEntries root (place.erase entries))
    ∧ ∀ place config, load loadYaml disk p = .ok config →
      ofEntries root (place.erase entries) = .ok (config.reset place)
  := by
  rw [load_eq_ofEntries h]
  exact ⟨rfl, exists_isDefect_iff, fun _ _ => ofEntries_set, fun place _ hread =>
    ofEntries_erase hread place⟩

/-- A configuration of which the output is replaced by null and left out. -/
theorem load_ignoresUnusable_output :
  let fields := [("output", "api.json"), ("format", "JSON")]
  let disk := diskOf "output: api.json\nformat: JSON\n"
  let config : Config :=
    { root := { root := .absolute }, base := { root := .absolute }, format := .json
      output := some (.ofText "/api.json") }
  Holds Yaml.loader disk (.ofText ".") config.root (ofFields fields)
    ∧ load Yaml.loader disk (.ofText ".") = .ok config
    ∧ ofEntries config.root (Place.set .null (.key "output") (ofFields fields))
      = .ok { config with output := none }
  := by
  intro fields disk config
  have hholds : Holds Yaml.loader disk (.ofText ".") config.root (ofFields fields) := by
    apply holds_ofFields (.ofText "/.doctracer.yml") <;> decide +kernel
  obtain ⟨hload, -, hset, herase⟩ := load_ignoresUnusable hholds
  have hread : ofEntries config.root (ofFields fields) = .ok config :=
    eq_ok_of_toOption (by decide +kernel)
  refine ⟨hholds, hload.trans hread, ?_⟩
  rw [hset _ _ (.text (by decide) .null), herase _ config (hload.trans hread)]
  rfl

/-- The base directory is resolved before the format is looked at, so its null character is what
fails. -/
theorem load_nullBase :
  let disk := diskOf "base_dir: \"a\\0b\"\nformat: pdf\n"
  let entries := ofFields [("base_dir", "a\x00b"), ("format", "pdf")]
  Holds Yaml.loader disk (.ofText ".") { root := .absolute } entries
    ∧ ¬((∃ failure, load Yaml.loader disk (.ofText ".") = .error failure ∧ failure.IsDefect)
      ↔ NamesOtherFormat entries)
  := by
  intro disk entries
  have hholds : Holds Yaml.loader disk (.ofText ".") { root := .absolute } entries := by
    apply holds_ofFields (.ofText "/.doctracer.yml") <;> decide +kernel
  refine ⟨hholds, fun hiff => ?_⟩
  have hformat : NamesOtherFormat entries :=
    ⟨.text "pdf", "pdf", rfl, rfl, rfl, by decide, by decide⟩
  have hfail := hiff.mpr hformat
  rw [load_eq_ofEntries hholds] at hfail
  have hpaths := (exists_isDefect_iff.mp hfail).2
  have husable := hpaths.base (.text "a\x00b") _ rfl rfl rfl (by decide)
  revert husable
  decide

end Config

end DocTable
