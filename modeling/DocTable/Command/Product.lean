import DocTable.Command.Arguments
import DocTable.Command.Record
import DocTable.DocBlock.Markup
import DocTable.Export
import DocTable.Inspection
import DocTable.Introspector.Plugin
import DocTable.Markup.Converter
import DocTable.Markup.Plain
import DocTable.Report.Template
import DocTable.Table.Layout

/-!
# What a command makes

`Command.make` inspects all targets and makes the report or the summary.  It changes no file: a
`Product` says what is to be printed or written.  What it reads is what stands there after the log
records so far, which may be in one of the files.  Whatever else a command makes use of is given by
an `Installation`.
-/

namespace DocTable.Command

/-! ### Installations -/

/-- Why an introspector gives no symbols. -/
inductive ReadFailure where
  | manifest (cause : Manifest.Failure)
  | plugin (cause : ForeignFailure)
  deriving DecidableEq, Repr

/-- What is said of an introspector that gives no symbols. -/
def ReadFailure.message : ReadFailure → String
  | manifest cause => cause.message
  | plugin cause => cause.message

/-- What is installed along with the program. -/
structure Installation where
  loadYaml : Yaml.Loader
  markdown : MarkdownLibrary
  engine : Report.Engine
  /-- The introspectors of others. -/
  plugins : List (Plugin ReadFailure)
  /-- The version under which the program is installed, if it is. -/
  version? : Option String
  release : Release

/-- The version of the program. -/
def Installation.version (installation : Installation) : String :=
  installation.version?.getD "0+unknown"

/-- The introspectors to be used. -/
def Installation.discover (installation : Installation) (enabled : Option (List String)) :
    Logged Plugin.Failure (List (Introspector ReadFailure)) :=
  Plugin.discover (.manifests installation.loadYaml .manifest) installation.plugins enabled

/-! ### Failures -/

/-- Why a command fails. -/
inductive Failure where
  | config (cause : Config.Failure)
  /-- The option for the configuration has no value. -/
  | noConfigName
  /-- An option to leave out a directory has no value. -/
  | noExcludedName
  | noTargets
  | plugins (cause : Plugin.Failure)
  | inspection (cause : Inspection.Failure ReadFailure)
  /-- The templates give no page. -/
  | template (message : String)
  | noPath (cause : PathFault)
  | noOutput (output : Path) (cause : FileError)
  /-- The text of the output cannot be written as bytes. -/
  | unencodable (cause : Text.Utf8.Unencodable)
  /-- The log file cannot be opened. -/
  | noLog (cause : FileError)

namespace Failure

/-- What is said of a failed inspection. -/
def inspectionMessage : Inspection.Failure ReadFailure → String
  | .scan cause => cause.message
  | .noPath cause => cause.message
  | .introspector cause => cause.message
  | .conflict cause => cause.message

/-- What is said of a failure. -/
def message : Failure → String
  | config cause => cause.message
  | noConfigName => "expected str, bytes or os.PathLike object, not list"
  | noExcludedName => "unhashable type: 'list'"
  | noTargets => "No targets given and none configured"
  | plugins cause => cause.message
  | inspection cause => inspectionMessage cause
  | template message => message
  | noPath cause => cause.message
  | noOutput output cause => "cannot write " ++ output.text ++ ": " ++ cause.message
  | unencodable cause => cause.message
  | noLog cause => cause.message

/-- A refused reading that means that a path is wrong. -/
def isWrongPath : FileFault → Bool
  | .notFound => true
  | .notDirectory => true
  | _ => false

/-- A value that cannot be printed is wrong itself, and not only of a kind that is not printed. -/
def isWrongValue : Unprintable → Bool
  | .circular | .tooLong => true
  | .noForm _ | .noKey _ => false

/-- A path that is wrong itself.  One without a home may be right elsewhere. -/
def isWrongText : PathFault → Bool
  | .null | .unencodable _ => true
  | .homeless => false

/-- A failure to load the configuration that a command reports by itself. -/
def isExpectedOfConfig : Config.Failure → Bool
  | .unreadable cause => isWrongPath cause.fault
  | .noYaml cause => cause.isExpected
  | .noPath cause => isWrongText cause
  | _ => true

/-- A failure to read a manifest that a command reports by itself. -/
def isExpectedOfManifest : Manifest.Failure → Bool
  | .unprintable cause => isWrongValue cause
  | .noYaml cause => cause.isExpected
  | .noJson cause => cause.isWrongValue
  | .noPath cause => isWrongText cause
  | _ => true

/-- A failed inspection that a command reports by itself. -/
def isExpectedOfInspection : Inspection.Failure ReadFailure → Bool
  | .scan (.refused cause) => isWrongPath cause.fault
  | .scan (.notFound _) | .scan (.notDirectory _) | .conflict _ => true
  | .noPath cause => isWrongText cause
  | .introspector (.manifest cause) => isExpectedOfManifest cause
  | .introspector (.plugin cause) => cause.isExpected

/-- A failure that a command reports by itself.  It does not expect the others. -/
def isExpected : Failure → Bool
  | config cause => isExpectedOfConfig cause
  | inspection cause => isExpectedOfInspection cause
  | plugins (.notLoaded _ _) | plugins (.noIntrospector _) => false
  | plugins (.nameTaken _) | plugins (.unknown _) => true
  | noTargets | noOutput _ _ => true
  | noConfigName | noExcludedName | template _ | noPath _ | unencodable _ | noLog _ => false

end Failure

/-! ### Surveys -/

/-- What a command prints, or writes to a file. -/
inductive Product where
  | printed (text : String)
  | written (output : Path) (text : String)

/-- A configuration with the catalog of all targets. -/
structure Survey where
  config : Config
  catalog : Catalog

/-- The catalog after the inspection of some targets, one after another, and after the events
`earlier`. -/
def inspectAll (setup : Inspection.Setup ReadFailure) (exclude : List String)
    (earlier : List Event) (catalog : Catalog) : List String → Logged Failure Catalog
  | [] => pure catalog
  | target :: targets => do
    let inspected := (Inspection.run setup earlier catalog target exclude).mapError .inspection
    let next ← inspected
    inspectAll setup exclude (earlier ++ inspected.events) next targets

/-- The inspection of targets that ends where the first of them is looked into, since it is not
known what to leave out. -/
def stopInspecting (setup : Inspection.Setup ReadFailure) :
    List String → Logged Failure Catalog
  | [] => pure .empty
  | target :: _ => do
    let place ← (Inspection.enter setup target).mapError .inspection
    let files := setup.disk.scan (fun _ => false) [] place
    let _ ← Logged.ofExcept (files.mapError fun cause => .inspection (.scan cause))
    throw .noExcludedName

/-- The base directory: the arguments count before the configuration. -/
def baseOf (disk : Disk) (arguments : Arguments) (config : Config) : Except Failure Path :=
  let named := (Arguments.pathOf? arguments.baseDir).getD config.base
  ((named.expandUser disk.homes).bind fun base => base.resolve disk.here).mapError fun cause =>
    .inspection (.noPath cause)

section

variable (installation : Installation) (disk : Disk) (created : DateTime) (log : LogTarget)
  (arguments : Arguments)

/-- Loads the configuration and inspects all targets. -/
def survey : Logged Failure Survey := do
  let some place := arguments.config | throw .noConfigName
  let config ← Logged.ofExcept
    ((Config.load installation.loadYaml disk (.ofText place)).mapError .config)
  let targets := if arguments.targets.isEmpty then config.targets else arguments.targets
  if targets.isEmpty then throw .noTargets
  let found := (installation.discover config.introspectors).mapError Failure.plugins
  let introspectors ← found
  let base ← baseOf disk arguments config
  let setup := { disk, record := log.record, base, introspectors }
  let catalog ← match arguments.exclude.mapM id with
    | some exclude => inspectAll setup (config.exclude ++ exclude) found.events .empty targets
    | none => stopInspecting setup targets
  pure { config, catalog }

end

/-! ### Contents -/

/-- The line for a symbol in the summary. -/
def symbolLine (s : Symbol) : String :=
  "  " ++ s.shortName ++ ": " ++ toString s.constants.size ++ " constants, "
    ++ toString s.properties.size ++ " properties, " ++ toString s.methods.size ++ " methods"

/-- The lines of the summary. -/
def summaryLines (catalog : Catalog) : List String :=
  catalog.entries.flatMap fun (name, symbols) =>
    namespaceTitle name :: symbols.values.map symbolLine

/-- The settings of the page: the arguments count before the configuration. -/
def pageSettings (arguments : Arguments) (config : Config) : Report.Settings :=
  { config.page with
    title := arguments.title.getD config.page.title
    tagline := arguments.tagline.getD config.page.tagline
    footer := arguments.footer.getD config.page.footer
    theme := arguments.theme.getD config.page.theme }

section

variable [Escaping] (installation : Installation) (disk : Disk) (created : DateTime)
  (log : LogTarget) (arguments : Arguments)

/-- The conversion of the texts of comments. -/
def textHtml (config : Config) : String → String :=
  if config.markdown then installation.markdown.render installation.release.isHost else plainHtml

/-- The table of a survey. -/
def tableOf (survey : Survey) : Table :=
  Table.build survey.catalog (DocBlock.toHtml (textHtml installation survey.config))

/-- What the page of a survey shows. -/
def contentOf (survey : Survey) : Report.Content where
  settings := pageSettings arguments survey.config
  making := { version := installation.version, created }
  table := tableOf installation survey

/-- The page of the report, made after the events `earlier`. -/
def pageText (earlier : List Event) (survey : Survey) : Logged Failure String := do
  let content := contentOf installation created arguments survey
  let events := [Event.laidOut content.table.length survey.catalog.size]
  Logged.report events
  let disk := log.record disk (earlier ++ events)
  let page := installation.engine disk survey.config.templates content
  Logged.ofExcept (page.mapError .template)

/-- The text of the report, made after the events `earlier`. -/
def reportText (earlier : List Event) (survey : Survey) : Logged Failure String :=
  match arguments.format.getD survey.config.format with
  | .json => pure (Export.json survey.catalog)
  | .html => pageText installation disk created log arguments earlier survey

/-- Makes what the arguments ask for, on a disk with an open log file. -/
def make : Logged Failure Product := do
  let surveyed := survey installation disk log arguments
  let survey ← surveyed
  match arguments.action with
  | .list =>
    pure (.printed (String.join ((summaryLines survey.catalog).map (· ++ "\n"))))
  | .build =>
    let text ← reportText installation disk created log arguments surveyed.events survey
    match (Arguments.pathOf? arguments.output).or survey.config.output with
    | none => pure (.printed text)
    | some output => pure (.written output text)

end

end DocTable.Command
