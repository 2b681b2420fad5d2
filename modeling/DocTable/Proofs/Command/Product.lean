import DocTable.Command.Product
import DocTable.Proofs.Inspection

/-!
# What a command makes

`Inspects` says which catalog comes of inspecting targets one after the other, each on the files as
they are then, `IsSurvey` which configuration and which catalog a command works with, and `IsReport`
which text is the report on them.

A command makes the summary of such a survey, or the report on it (`make_eq_ok_iff`).
-/

namespace DocTable.Command

open Inspection (Call Setup)

/-- Inspecting targets one after the other leads from a catalog to another, after the events
`earlier`: each target gives a batch, which the catalog takes. -/
inductive Inspects (setup : Setup ReadFailure) (exclude : List String) :
    List Event → Catalog → List String → Catalog → Prop where
  | nil (earlier : List Event) (catalog : Catalog) :
      Inspects setup exclude earlier catalog [] catalog
  | cons {earlier : List Event} {before between after : Catalog} {target : String}
      {targets : List String} {batch : List Symbol}
      (reads : Call.Reads { setup, earlier, target, exclude } batch)
      (ingested : before.ingest batch = .ok between)
      (rest : Inspects setup exclude
        (earlier ++ (Inspection.run setup earlier before target exclude).events)
        between targets after) :
      Inspects setup exclude earlier before (target :: targets) after

/-- Targets give a catalog exactly if their inspections lead to it.  The induction is on the
targets, and the log records before them and the catalog change from one to the next. -/
theorem inspectAll_eq_ok_iff {setup : Setup ReadFailure} {exclude : List String}
    {earlier : List Event} {before after : Catalog} {targets : List String} :
  (inspectAll setup exclude earlier before targets).result = .ok after
    ↔ Inspects setup exclude earlier before targets after
  := by
  induction targets generalizing earlier before with
  | nil =>
    rw [inspectAll]
    constructor
    · rintro ⟨⟩
      apply Inspects.nil
    · rintro ⟨⟩
      rfl
  | cons target targets ih =>
    have hrun (between : Catalog) :
        (Inspection.run setup earlier before target exclude).result = .ok between
          ↔ ∃ batch, Call.Reads { setup, earlier, target, exclude } batch
            ∧ before.ingest batch = .ok between :=
      @Inspection.run_eq_ok_iff _ { setup, earlier, target, exclude } before between
    rw [inspectAll, Logged.result_bind_eq_ok_iff]
    constructor
    · rintro ⟨between, hbetween, hrest⟩
      obtain ⟨batch, hreads, hingest⟩ :=
        (hrun between).mp (Logged.result_mapError_eq_ok_iff.mp hbetween)
      exact .cons hreads hingest (ih.mp hrest)
    · rintro (_ | ⟨hreads, hingest, hrest⟩)
      refine ⟨_, ?_, ih.mpr hrest⟩
      exact Logged.result_mapError_eq_ok_iff.mpr ((hrun _).mpr ⟨_, hreads, hingest⟩)

/-- Where it is not known what to leave out, no target is inspected. -/
theorem result_stopInspecting {setup : Setup ReadFailure} {targets : List String}
    (htargets : targets ≠ []) (catalog : Catalog) :
  (stopInspecting setup targets).result ≠ .ok catalog
  := by
  obtain ⟨target, targets, rfl⟩ := List.exists_cons_of_ne_nil htargets
  intro h
  obtain ⟨place, -, h⟩ := Logged.result_bind_eq_ok_iff.mp h
  obtain ⟨files, -, h⟩ := Logged.result_bind_eq_ok_iff.mp h
  contradiction

/-! ### Surveys -/

/-- The targets of a command: the arguments count before the configuration. -/
def targetsOf (arguments : Arguments) (config : Config) : List String :=
  if arguments.targets.isEmpty then config.targets else arguments.targets

/-- The configuration that the arguments name, and the catalog of all targets, inspected in order
from an empty catalog on. -/
inductive IsSurvey (installation : Installation) (disk : Disk) (log : LogTarget)
    (arguments : Arguments) : Survey → Prop where
  | intro {place : String} {config : Config} {exclude : List String}
      {introspectors : List (Introspector ReadFailure)} {base : Path} {catalog : Catalog}
      (named : arguments.config = some place)
      (loaded : Config.load installation.loadYaml disk (.ofText place) = .ok config)
      (targeted : targetsOf arguments config ≠ [])
      (excluded : arguments.exclude.mapM id = some exclude)
      (found : (installation.discover config.introspectors).result = .ok introspectors)
      (based : baseOf disk arguments config = .ok base)
      (inspected : Inspects { disk, record := log.record, base, introspectors }
        (config.exclude ++ exclude) (installation.discover config.introspectors).events .empty
        (targetsOf arguments config) catalog) :
      IsSurvey installation disk log arguments { config, catalog }

variable {installation : Installation} {disk : Disk} {log : LogTarget} {created : DateTime}
  {arguments : Arguments}

/-- A survey is made exactly if its configuration can be read and all targets can be inspected. -/
theorem survey_eq_ok_iff {made : Survey} :
  (survey installation disk log arguments).result = .ok made
    ↔ IsSurvey installation disk log arguments made
  := by
  constructor
  · intro h
    rw [survey] at h
    split at h
    case h_2 => contradiction
    case h_1 place named =>
      obtain ⟨config, loaded, h⟩ := Logged.result_bind_eq_ok_iff.mp h
      rw [Logged.result_ofExcept, mapError_eq_ok_iff] at loaded
      dsimp only at h
      rw [← targetsOf] at h
      split at h
      case isTrue =>
        obtain ⟨_, ⟨⟩, -⟩ := Logged.result_bind_eq_ok_iff.mp h
      case isFalse targeted =>
        replace targeted := fun hnil => targeted (List.isEmpty_iff.mpr hnil)
        obtain ⟨introspectors, found, h⟩ := Logged.result_bind_eq_ok_iff.mp h
        obtain ⟨base, based, h⟩ := Logged.result_bind_eq_ok_iff.mp h
        split at h
        case h_1 exclude excluded =>
          obtain ⟨catalog, inspected, h⟩ := Logged.result_bind_eq_ok_iff.mp h
          obtain rfl := Except.ok.inj h
          apply IsSurvey.intro named loaded targeted excluded
          · exact Logged.result_mapError_eq_ok_iff.mp found
          · exact based
          · exact inspectAll_eq_ok_iff.mp inspected
        case h_2 =>
          obtain ⟨catalog, stopped, -⟩ := Logged.result_bind_eq_ok_iff.mp h
          exact absurd stopped (result_stopInspecting targeted catalog)
  · rintro ⟨named, loaded, targeted, excluded, found, based, inspected⟩
    rw [survey, named]
    dsimp only
    rw [Logged.result_bind_eq_ok_iff]
    refine ⟨_, mapError_eq_ok_iff.mpr loaded, ?_⟩
    rw [← targetsOf, if_neg fun hnil => targeted (List.isEmpty_iff.mp hnil),
      Logged.result_bind_eq_ok_iff]
    refine ⟨_, Logged.result_mapError_eq_ok_iff.mpr found, ?_⟩
    rw [Logged.result_bind_eq_ok_iff]
    refine ⟨_, based, ?_⟩
    rw [excluded]
    dsimp only
    rw [Logged.result_bind_eq_ok_iff]
    exact ⟨_, inspectAll_eq_ok_iff.mpr inspected, rfl⟩

/-- There is only one survey. -/
theorem IsSurvey.unique {made made' : Survey} (h : IsSurvey installation disk log arguments made)
    (h' : IsSurvey installation disk log arguments made') :
  made = made'
  := by
  have hsurvey := survey_eq_ok_iff.mpr h
  rw [survey_eq_ok_iff.mpr h'] at hsurvey
  exact (Except.ok.inj hsurvey).symm

/-! ### Reports -/

/-- The file for the report: the arguments count before the configuration. -/
def outputOf (arguments : Arguments) (config : Config) : Option Path :=
  (Arguments.pathOf? arguments.output).or config.output

/-- The disk from which the templates are read, after the log records of a survey and of the layout
of its table. -/
def templateDisk [Escaping] (installation : Installation) (disk : Disk) (log : LogTarget)
    (earlier : List Event) (made : Survey) : Disk :=
  log.record disk
    (earlier ++ [.laidOut (tableOf installation made).length made.catalog.size])

section

variable [Escaping] (installation : Installation) (disk : Disk) (log : LogTarget)
  (created : DateTime) (arguments : Arguments)

/-- The report on a survey, in the format that is asked for: the export of the catalog, or what the
engine writes for the page of its table.  With the templates of the program, this is the page with
the style sheet that is found. -/
inductive IsReport (earlier : List Event) (made : Survey) : String → Prop where
  | json (hformat : arguments.format.getD made.config.format = .json) :
      IsReport earlier made (Export.json made.catalog)
  | html {text : String} (hformat : arguments.format.getD made.config.format = .html)
      (hpage : installation.engine (templateDisk installation disk log earlier made)
        made.config.templates (contentOf installation created arguments made) = .ok text)
      (hplain : installation.engine.IsFaithful → ∀ style,
        Report.plainStyle? (templateDisk installation disk log earlier made) made.config.templates
          = some style → text = (contentOf installation created arguments made).html style) :
      IsReport earlier made text

/-- The report that a command makes: that on its survey, after the log records of the survey. -/
def MakesReport (made : Survey) (text : String) : Prop :=
  IsSurvey installation disk log arguments made
    ∧ IsReport installation disk log created arguments
      (survey installation disk log arguments).events made text

/-- The summary of a catalog, a line feed after each line. -/
def summaryText (catalog : Catalog) : String :=
  String.join ((summaryLines catalog).map (· ++ "\n"))

/-- What a command makes: a summary to be printed, or a report to be printed or to be written to the
file for it. -/
inductive Makes : Product → Prop where
  | summary {made : Survey} (haction : arguments.action = .list)
      (hsurvey : IsSurvey installation disk log arguments made) :
      Makes (.printed (summaryText made.catalog))
  | printed {made : Survey} {text : String} (haction : arguments.action = .build)
      (hreport : MakesReport installation disk log created arguments made text)
      (houtput : outputOf arguments made.config = none) :
      Makes (.printed text)
  | written {made : Survey} {text : String} {output : Path} (haction : arguments.action = .build)
      (hreport : MakesReport installation disk log created arguments made text)
      (houtput : outputOf arguments made.config = some output) :
      Makes (.written output text)

end

section

variable [Escaping]

/-- A text is made of a survey exactly if it is the report on it. -/
theorem reportText_eq_ok_iff {earlier : List Event} {made : Survey} {text : String} :
  (reportText installation disk created log arguments earlier made).result = .ok text
    ↔ IsReport installation disk log created arguments earlier made text
  := by
  constructor
  · intro h
    rw [reportText] at h
    split at h
    case h_1 hformat =>
      obtain rfl := Except.ok.inj h
      exact .json hformat
    case h_2 hformat =>
      obtain ⟨_, -, h⟩ := Logged.result_bind_eq_ok_iff.mp h
      have hpage : installation.engine (templateDisk installation disk log earlier made)
          made.config.templates (contentOf installation created arguments made) = .ok text :=
        mapError_eq_ok_iff.mp h
      refine .html hformat hpage fun hengine style hstyle => ?_
      rw [hengine _ _ _ style hstyle] at hpage
      exact (Except.ok.inj hpage).symm
  · rintro (hformat | ⟨hformat, hpage, -⟩)
    · rw [reportText, hformat]
      rfl
    · rw [reportText, hformat]
      dsimp only
      rw [pageText, Logged.result_bind_eq_ok_iff]
      exact ⟨(), rfl, mapError_eq_ok_iff.mpr hpage⟩

/-- A report goes where the arguments and the configuration say. -/
theorem result_make_of_makesReport {made : Survey} {text : String}
    (haction : arguments.action = .build)
    (hreport : MakesReport installation disk log created arguments made text) :
  (make installation disk created log arguments).result
    = .ok (match outputOf arguments made.config with
      | none => .printed text
      | some output => .written output text)
  := by
  obtain ⟨hsurvey, hreport⟩ := hreport
  rw [make, Logged.result_bind_eq_ok_iff]
  refine ⟨_, survey_eq_ok_iff.mpr hsurvey, ?_⟩
  rw [haction]
  dsimp only
  rw [Logged.result_bind_eq_ok_iff]
  refine ⟨_, reportText_eq_ok_iff.mpr hreport, ?_⟩
  rw [← outputOf]
  cases outputOf arguments made.config <;> rfl

/-- A command makes the summary of its survey or the report on it, whenever there is one. -/
theorem make_eq_ok_iff {product : Product} :
  (make installation disk created log arguments).result = .ok product
    ↔ Makes installation disk log created arguments product
  := by
  constructor
  · intro h
    obtain ⟨made, hmade, h⟩ := Logged.result_bind_eq_ok_iff.mp h
    have hsurvey := survey_eq_ok_iff.mp hmade
    split at h
    case h_1 haction =>
      obtain rfl := Except.ok.inj h
      exact .summary haction hsurvey
    case h_2 haction =>
      obtain ⟨text, htext, h⟩ := Logged.result_bind_eq_ok_iff.mp h
      have hreport : MakesReport installation disk log created arguments made text :=
        ⟨hsurvey, reportText_eq_ok_iff.mp htext⟩
      split at h
      case h_1 houtput =>
        obtain rfl := Except.ok.inj h
        exact .printed haction hreport houtput
      case h_2 output houtput =>
        obtain rfl := Except.ok.inj h
        exact .written haction hreport houtput
  · rintro (⟨haction, hsurvey⟩ | ⟨haction, hreport, houtput⟩ | ⟨haction, hreport, houtput⟩)
    · rw [make, Logged.result_bind_eq_ok_iff]
      refine ⟨_, survey_eq_ok_iff.mpr hsurvey, ?_⟩
      rw [haction]
      rfl
    · rw [result_make_of_makesReport haction hreport, houtput]
    · rw [result_make_of_makesReport haction hreport, houtput]

/-- A command makes only one thing. -/
theorem Makes.unique {product product' : Product}
    (h : Makes installation disk log created arguments product)
    (h' : Makes installation disk log created arguments product') :
  product = product'
  := by
  have hmake := make_eq_ok_iff.mpr h
  rw [make_eq_ok_iff.mpr h'] at hmake
  exact (Except.ok.inj hmake).symm

end

end DocTable.Command
