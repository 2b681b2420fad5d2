import DocTable.FileTree.Access
import DocTable.Report.Page
import DocTable.Text.LowerCase
import DocTable.Value.Literal
import DocTable.Yaml.Loader

/-!
# Configuration

`Config.load` reads the configuration of a project.  A missing file gives the defaults, and so does
every value of an unexpected kind; only an unknown output format is refused.
-/

namespace DocTable

/-- The form in which a report is written. -/
inductive OutputFormat where
  | html
  | json
  deriving DecidableEq, Repr

namespace OutputFormat

/-- The word for a format. -/
def word : OutputFormat → String
  | html => "html"
  | json => "json"

/-- All formats. -/
def all : List OutputFormat := [html, json]

/-- The format that a word names. -/
def ofWord? (w : String) : Option OutputFormat :=
  all.find? (·.word = w)

end OutputFormat

/-- The settings of a project. -/
structure Config where
  /-- The directory of the configuration file. -/
  root : Path
  /-- The directory from which targets and source files are named. -/
  base : Path
  targets : List String := []
  exclude : List String := []
  /-- The introspectors to be used; without a list all are. -/
  introspectors : Option (List String) := none
  /-- The file to be written; without one the report goes to the standard output. -/
  output : Option Path := none
  format : OutputFormat := .html
  page : Report.Settings := {}
  /-- Comments are read as Markdown. -/
  markdown : Bool := true
  /-- The directory that may hold a style sheet of its own. -/
  templates : Option Path := none
  deriving DecidableEq, Repr

namespace Config

/-- The name of the configuration file. -/
def fileName : String := ".doctracer.yml"

/-- Why a configuration cannot be loaded. -/
inductive Failure where
  | noMap
  /-- The text of the file is not well formed. -/
  | unparsable (name message : String)
  | unknownFormat (word : String)
  | unreadable (cause : FileError)
  /-- The bytes of the file are not UTF-8. -/
  | notText (cause : Text.Utf8.Fault)
  /-- The loader of YAML fails in some other way. -/
  | noYaml (cause : ForeignFailure)
  /-- A number cannot be printed. -/
  | unprintable (cause : Unprintable)
  | noPath (cause : PathFault)
  deriving DecidableEq, Repr

/-- What is said of a failure. -/
def Failure.message : Failure → String
  | noMap => fileName ++ " must contain a mapping at the root"
  | unparsable name message => "Failed to parse " ++ name ++ ": " ++ message
  | unknownFormat word =>
    "Unsupported output format " ++ Text.quoted word ++ "; expected one of "
      ++ ", ".intercalate (OutputFormat.all.map OutputFormat.word)
  | unreadable cause => cause.message
  | notText cause => cause.message
  | noYaml cause => cause.message
  | unprintable cause => cause.message
  | noPath cause => cause.message

/-! ### Fields -/

/-- The text of a field that is a scalar and not empty. -/
def text? (entries : List (Value × Value)) (name : String) : Except Failure (Option String) := do
  let text ← (((Value.lookup? name entries).filter Value.isWord).mapM Value.plain).mapError
    .unprintable
  pure (text.filter (· ≠ ""))

/-- The texts of a field: a text alone, or the scalars of a list.  Bytes are a list of numbers. -/
def texts (entries : List (Value × Value)) (name : String) : Except Failure (List String) :=
  match (Value.lookup? name entries).map Value.unfold with
  | some (.text s) => .ok [s]
  | some (.list items) => (Value.words items).mapError .unprintable
  | some (.bytes contents) => .ok (contents.map fun b => toString b.toNat)
  | _ => .ok []

/-- The truth value that a text stands for. -/
def truthOf? (s : String) : Option Bool :=
  let word := Text.lower (Text.trimmed s)
  if word ∈ ["true", "yes", "1"] then some true
  else if word ∈ ["false", "no", "0"] then some false
  else none

/-- The truth value of a field. -/
def truth? (entries : List (Value × Value)) (name : String) : Option Bool :=
  match Value.lookup? name entries with
  | some (.bool b) => some b
  | some (.text s) => truthOf? s
  | _ => none

/-- The entries of a field that is a map. -/
def entriesOf (entries : List (Value × Value)) (name : String) : List (Value × Value) :=
  match (Value.lookup? name entries).map Value.unfold with
  | some (.map inner) => inner
  | _ => []

/-- The introspectors that are asked for. -/
def introspectorsOf (entries : List (Value × Value)) : Except Failure (Option (List String)) :=
  match Value.lookup? "introspectors" entries with
  | none => .ok none
  | some .null => .ok none
  | some _ => (texts entries "introspectors").map some

/-- The settings of the page. -/
def pageOf (report : List (Value × Value)) : Except Failure Report.Settings := do
  let title ← text? report "title"
  let tagline ← text? report "tagline"
  let footer ← text? report "footer"
  let theme ← text? report "theme"
  let customStyle ← text? report "custom_style"
  pure {
    title := title.getD Report.defaultTitle
    tagline := tagline.getD Report.defaultTagline
    footer := footer.getD ""
    theme := theme.getD "default"
    customStyle := customStyle.getD "" }

/-- The path that a field names from the root on. -/
def path? (root : Path) (entries : List (Value × Value)) (name : String) :
    Except Failure (Option Path) :=
  (text? entries name).map fun text => text.map fun s => root.join (.ofText s)

/-- The base directory: a field names it from the root on. -/
def baseOf (root : Path) (entries : List (Value × Value)) : Except Failure Path := do
  match ← text? entries "base_dir" with
  | some s => ((root.join (.ofText s)).resolve root).mapError .noPath
  | none => pure root

/-- The output format. -/
def formatOf (entries : List (Value × Value)) : Except Failure OutputFormat := do
  let word := Text.lower ((← text? entries "format").getD OutputFormat.html.word)
  match OutputFormat.ofWord? word with
  | some format => pure format
  | none => throw (.unknownFormat word)

/-- The configuration of a map in a file of the directory `root`. -/
def ofEntries (root : Path) (entries : List (Value × Value)) : Except Failure Config := do
  let base ← baseOf root entries
  let output ← path? root entries "output"
  let format ← formatOf entries
  let introspectors ← introspectorsOf entries
  let report := entriesOf entries "report"
  let page ← pageOf report
  let templates ← path? root report "templates_dir"
  let targets ← texts entries "targets"
  let exclude ← texts entries "exclude"
  pure {
    root, base, targets, exclude, introspectors, output, format, page, templates
    markdown := (truth? report "markdown").getD true }

/-! ### Files -/

/-- The configuration file that a path names, itself or by its directory. -/
def fileOf (disk : Disk) (p : Path) : Except Failure Path := do
  let p ← (p.expandUser disk.homes).mapError .noPath
  let isDirectory ← (disk.hasDirectory p).mapError .unreadable
  let file := if isDirectory then p.child fileName else p
  (file.resolve disk.here).mapError .noPath

/-- The value of a configuration file: a blank one is an empty map, and so is null. -/
def valueOf (loadYaml : Yaml.Loader) (disk : Disk) (file : Path) : Except Failure Value := do
  let bytes ← (disk.read file).mapError .unreadable
  let text ← (Text.ofBytes bytes).mapError .notText
  if Text.allBlank text.toList then
    pure (.map [])
  else
    match loadYaml text with
    | .ok .null => pure (.map [])
    | .ok v => pure v
    | .error (.malformed message) => throw (.unparsable file.name message)
    | .error (.foreign cause) => throw (.noYaml cause)

/-- The configuration in the file that a path names. -/
def load (loadYaml : Yaml.Loader) (disk : Disk) (p : Path) : Except Failure Config := do
  let file ← fileOf disk p
  let root := file.parent
  if ← (disk.hasPath file).mapError .unreadable then
    match (← valueOf loadYaml disk file).unfold with
    | .map entries => ofEntries root entries
    | _ => throw .noMap
  else
    pure { root, base := root }

end Config

end DocTable
