import DocTable.Command.Installed
import DocTable.Command.Run
import DocTable.Proofs.Command.Product
import DocTable.Proofs.FileTree.Extends
import DocTable.Proofs.Text.Surrogate

/-!
# Commands are all or nothing

A command writes log records to its log file, and the report to the file for it once everything else
is done.  `Performs` lists the ways in which a command can go, with what stands on the disk then.

A command that fails has printed nothing and has changed no file but the log file, and a report that
is written is the whole content of its file (`run_all_or_nothing`).  Only a report with lone
surrogates cannot be written: then the file is left empty.
-/

namespace DocTable.Command

open Text (Utf8.encode Utf8.unencodable?)

/-! ### The log file -/

namespace LogTarget

variable {target : LogTarget} {disk next : Disk} {events : List Event}

/-- The place of the log file, if there is one. -/
def places (target : LogTarget) (disk : Disk) : Set (List String) :=
  { place | ∃ p, target.file = some p ∧ place = (disk.here.join p).normalized.names }

/-- The log file is there, if there is to be one. -/
def IsOpen (target : LogTarget) (disk : Disk) : Prop :=
  ∀ p, target.file = some p →
    disk.locateNew (disk.here.join p).normalized = .ok (disk.here.join p).normalized.names
      ∧ (disk.tree.bytes? (disk.here.join p).normalized.names).isSome

/-- The place of the log file depends on the working directory only. -/
theorem places_eq {touched : Set (List String)} (h : disk.Extends touched next) :
  target.places next = target.places disk
  := by
  rw [places, places, h.here]

/-- A log file stays open when files are changed or made. -/
theorem IsOpen.extends {touched : Set (List String)} (hopen : target.IsOpen disk)
    (h : disk.Extends touched next) :
  target.IsOpen next
  := by
  intro p hp
  obtain ⟨hplace, hbytes⟩ := hopen p hp
  rw [h.here]
  exact ⟨h.locateNew hplace, h.files _ hbytes⟩

/-- Log records stand at the end of the log file, and no other file changes. -/
theorem append_eq_ok (h : target.append disk events = .ok next) :
  disk.Extends (target.places disk) next ∧ target.IsOpen next
    ∧ ∀ place ∈ target.places disk, next.tree.bytes? place
      = some ((disk.tree.bytes? place).getD []
          ++ Utf8.encode (logText target.verbosity target.stamp events))
  := by
  rw [append] at h
  split at h
  case h_1 hnone =>
    obtain rfl := Except.ok.inj h
    refine ⟨.refl _ disk, ?_, ?_⟩
    · intro p hp
      rw [hnone] at hp
      contradiction
    · rintro place ⟨p, hp, -⟩
      rw [hnone] at hp
      contradiction
  case h_2 p hsome =>
    obtain ⟨place, hplace, hextends, hbytes⟩ := Disk.modifyFile_eq_ok h
    obtain rfl := Disk.eq_of_locateNew_normalized hplace
    have hsame (q : Path) (hq : target.file = some q) : q = p := by
      rw [hsome] at hq
      exact (Option.some.inj hq).symm
    refine ⟨hextends.mono ?_, ?_, ?_⟩
    · rintro _ rfl
      exact ⟨p, hsome, rfl⟩
    · intro q hq
      rw [hsame q hq, hextends.here, hbytes]
      exact ⟨hextends.locateNew hplace, rfl⟩
    · rintro _ ⟨q, hq, rfl⟩
      rw [hsame q hq]
      exact hbytes

/-- Log records change the log file, if they can be written, and nothing else. -/
theorem extends_record (target : LogTarget) (disk : Disk) (events : List Event) :
  disk.Extends (target.places disk) (target.record disk events)
  := by
  rw [record]
  cases h : target.append disk events with
  | error cause => exact .refl _ disk
  | ok next => exact (append_eq_ok h).1

/-- Records can be written to an open log file. -/
theorem IsOpen.exists_append (hopen : target.IsOpen disk) (events : List Event) :
  ∃ next, target.append disk events = .ok next
  := by
  rw [append]
  split
  case h_1 => exact ⟨disk, rfl⟩
  case h_2 p hsome =>
    obtain ⟨hplace, hbytes⟩ := hopen p hsome
    refine ⟨_, Disk.modifyFile_of_not_isDirectoryAt _ hplace ?_⟩
    intro hdirectory
    rw [hdirectory.bytes?] at hbytes
    contradiction

/-- Records stand at the end of an open log file. -/
theorem IsOpen.bytes?_record (hopen : target.IsOpen disk) (events : List Event)
    {place : List String} (hplace : place ∈ target.places disk) {bytes : List UInt8}
    (hbytes : disk.tree.bytes? place = some bytes) :
  (target.record disk events).tree.bytes? place
    = some (bytes ++ Utf8.encode (logText target.verbosity target.stamp events))
  := by
  obtain ⟨next, h⟩ := hopen.exists_append events
  rw [record, h]
  change next.tree.bytes? place = _
  rw [(append_eq_ok h).2.2 place hplace, hbytes, Option.getD_some]

end LogTarget

/-- Once the log file has been opened it is there, and nothing else has changed. -/
theorem openLog_eq_ok {target : LogTarget} {disk opened : Disk}
    (h : openLog target disk = .ok opened) :
  disk.Extends (target.places disk) opened ∧ target.IsOpen opened
  := by
  rw [openLog] at h
  split at h
  case h_1 => contradiction
  case h_2 =>
    obtain ⟨hextends, hopen, -⟩ := LogTarget.append_eq_ok (mapError_eq_ok_iff.mp h)
    exact ⟨hextends, hopen⟩

/-! ### The file for the report -/

/-- The empty text has no bytes. -/
theorem encode_empty :
  Utf8.encode "" = []
  := rfl

/-- A failure to write the file `output`. -/
def Failure.IsOfOutput (output : Path) : Failure → Prop
  | noPath _ => True
  | noOutput p _ => p = output
  | unencodable _ => True
  | _ => False

/-- What is left of writing a text to a file: no file has changed, the file is empty since the text
has lone surrogates, or the file holds the text. -/
inductive Writes (disk : Disk) (output : Path) (text : String) :
    Disk × Except Failure Unit → Prop where
  | refused {next : Disk} {failure : Failure} (hfailure : failure.IsOfOutput output)
      (h : disk.Extends ∅ next) :
      Writes disk output text (next, .error failure)
  | emptied {next : Disk} {place : List String} {cause : Text.Utf8.Unencodable}
      (hcause : Utf8.unencodable? text.toList = some cause)
      (hplace : next.locate output = .ok place)
      (h : disk.Extends {place} next) (hbytes : next.tree.bytes? place = some []) :
      Writes disk output text (next, .error (.unencodable cause))
  | written {next : Disk} {place : List String} (hplace : next.locate output = .ok place)
      (h : disk.Extends {place} next)
      (hbytes : next.tree.bytes? place = some (Utf8.encode text)) :
      Writes disk output text (next, .ok ())

/-- Nothing else is left once the directory for the file is there. -/
theorem writes_writeText {disk made : Disk} (hmade : disk.Extends ∅ made) (output : Path)
    (text : String) :
  Writes disk output text (writeText made output text)
  := by
  have hwrite {written : String} {next : Disk} (h : made.write output written = .ok next) :
      ∃ place, next.locate output = .ok place ∧ disk.Extends {place} next
        ∧ next.tree.bytes? place = some (Utf8.encode written) := by
    obtain ⟨place, hplace, hextends, hbytes⟩ := Disk.modifyFile_eq_ok h
    refine ⟨place, ?_, (hmade.mono (Set.empty_subset _)).trans hextends, hbytes⟩
    apply Disk.locate_of_locateNew (hextends.locateNew hplace)
    rw [FileTree.isSome_get?_iff, hbytes]
    exact .inr rfl
  unfold writeText
  split
  case h_1 => exact .refused trivial hmade
  case h_2 =>
    dsimp only
    split
    case h_1 => exact .refused rfl hmade
    case h_2 emptied cause hemptied hcause =>
      rw [hcause] at hemptied
      obtain ⟨place, hplace, hextends, hbytes⟩ := hwrite hemptied
      rw [Option.isSome_some, if_pos rfl, encode_empty] at hbytes
      exact .emptied hcause hplace hextends hbytes
    case h_3 next hnext hfault =>
      rw [hfault] at hnext
      obtain ⟨place, hplace, hextends, hbytes⟩ := hwrite hnext
      exact .written hplace hextends hbytes

/-- Nothing else is left where the directory for the file has to be made first. -/
theorem writes_writeOutput (disk : Disk) (output : Path) (text : String) :
  Writes disk output text (writeOutput disk output text)
  := by
  unfold writeOutput
  split
  case h_1 => exact .refused trivial (.refl ∅ disk)
  case h_2 =>
    split
    case h_1 => exact .refused rfl (.refl ∅ disk)
    case h_2 made hmade =>
      exact writes_writeText (Disk.extends_of_makeDirectories hmade) output text

/-- A text without lone surrogates is written wherever an empty one is. -/
theorem writeText_of_encodable {disk : Disk} {output : Path} {text : String}
    (hencodable : Utf8.unencodable? text.toList = none)
    (h : (writeText disk output "").2 = .ok ()) :
  (writeText disk output text).2 = .ok ()
  := by
  have hempty : Utf8.unencodable? "".toList = none := rfl
  rw [writeText, hempty] at h
  rw [writeText, hencodable]
  cases hfault : output.fault? with
  | some cause =>
    rw [hfault] at h
    contradiction
  | none =>
    rw [hfault] at h
    dsimp only [Option.isSome_none] at h ⊢
    cases hwrite : disk.write output "" with
    | error cause =>
      rw [if_neg Bool.false_ne_true, hwrite] at h
      contradiction
    | ok emptied =>
      obtain ⟨written, hwritten⟩ : ∃ written, disk.write output text = .ok written :=
        (Disk.exists_modifyFile_iff _ _).mp ⟨emptied, hwrite⟩
      rw [if_neg Bool.false_ne_true, hwritten]

/-- The same holds where the directory for the file has to be made first. -/
theorem writeOutput_of_encodable {disk : Disk} {output : Path} {text : String}
    (hencodable : Utf8.unencodable? text.toList = none)
    (h : (writeOutput disk output "").2 = .ok ()) :
  (writeOutput disk output text).2 = .ok ()
  := by
  rw [writeOutput] at h ⊢
  cases hfault : output.parent.fault? with
  | some cause =>
    rw [hfault] at h
    contradiction
  | none =>
    rw [hfault] at h
    dsimp only at h ⊢
    cases hmade : disk.makeDirectories output.parent with
    | error cause =>
      rw [hmade] at h
      contradiction
    | ok made =>
      rw [hmade] at h
      exact writeText_of_encodable hencodable h

/-! ### Commands -/

/-- The disk `next` has the text in the file `output`, and nothing else: only if the log records go
to that file too, the record of the report comes after it.  No other file but the log file has
changed. -/
def IsWritten (disk : Disk) (log : LogTarget) (output : Path) (text : String) (next : Disk) :
    Prop :=
  ∃ place, next.locate output = .ok place ∧ disk.Extends (insert place (log.places disk)) next
    ∧ (place ∉ log.places disk → next.read output = .ok (Utf8.encode text))
    ∧ (place ∈ log.places disk → next.read output = .ok (Utf8.encode text
        ++ Utf8.encode (logText log.verbosity log.stamp [.reportWritten output])))

/-- What is written after the log file is opened is written by the whole command. -/
theorem IsWritten.of_opened {disk opened next : Disk} {log : LogTarget} {output : Path}
    {text : String} (hopened : openLog log disk = .ok opened)
    (h : IsWritten opened log output text next) :
  IsWritten disk log output text next
  := by
  obtain ⟨hextends, -⟩ := openLog_eq_ok hopened
  obtain ⟨place, hplace, h, hcontent⟩ := h
  rw [LogTarget.places_eq hextends] at h hcontent
  exact ⟨place, hplace, (hextends.mono (Set.subset_insert _ _)).trans h, hcontent⟩

section

variable [Escaping] {installation : Installation} {disk : Disk} {created : DateTime}
  {log : LogTarget} {arguments : Arguments}

/-- The ways in which a command can go on a disk with an open log file. -/
inductive Performs (installation : Installation) (disk : Disk) (created : DateTime)
    (log : LogTarget) (arguments : Arguments) : Disk × Outcome → Prop where
  /-- It fails to make anything, and no file but the log file has changed. -/
  | unmade {next : Disk} {failure : Failure} {messages : String}
      (hmakes : ∀ product, ¬ Makes installation disk log created arguments product)
      (h : disk.Extends (log.places disk) next) :
      Performs installation disk created log arguments
        (next, { ending := .failed failure, messages })
  /-- It fails to write the report, and no file but the log file has changed. -/
  | refused {next : Disk} {output : Path} {text messages : String} {failure : Failure}
      (hmakes : Makes installation disk log created arguments (.written output text))
      (hfailure : failure.IsOfOutput output) (h : disk.Extends (log.places disk) next) :
      Performs installation disk created log arguments
        (next, { ending := .failed failure, messages })
  /-- It fails to write a report with lone surrogates, the file for which is empty then. -/
  | emptied {next : Disk} {output : Path} {text messages : String} {place : List String}
      {cause : Text.Utf8.Unencodable}
      (hmakes : Makes installation disk log created arguments (.written output text))
      (hcause : Utf8.unencodable? text.toList = some cause)
      (hplace : next.locate output = .ok place)
      (h : disk.Extends (insert place (log.places disk)) next)
      (hbytes : next.tree.bytes? place = some []) :
      Performs installation disk created log arguments
        (next, { ending := .failed (.unencodable cause), messages })
  /-- It prints what it has made. -/
  | printed {next : Disk} {text messages : String}
      (hmakes : Makes installation disk log created arguments (.printed text))
      (h : disk.Extends (log.places disk) next) :
      Performs installation disk created log arguments
        (next, { ending := .done, output := text, messages })
  /-- It writes the report to the file for it, and says so. -/
  | written {next : Disk} {output : Path} {text messages : String}
      (hmakes : Makes installation disk log created arguments (.written output text))
      (h : IsWritten disk log output text next) :
      Performs installation disk created log arguments (next, {
        ending := .done
        output := "Report written to " ++ shownName disk.here output ++ "\n"
        messages })

/-- Every command goes in one of these ways: it writes nothing until it has made all that it is to
print or to write. -/
theorem performs_perform (hopen : log.IsOpen disk) :
  Performs installation disk created log arguments (perform installation disk created log arguments)
  := by
  rw [perform]
  dsimp only
  generalize (make installation disk created log arguments).events = events
  have hlogged := log.extends_record disk events
  split
  case h_1 failure hfailure =>
    apply Performs.unmade _ hlogged
    intro product hmakes
    rw [make_eq_ok_iff.mpr hmakes] at hfailure
    contradiction
  case h_2 text hmade => exact .printed (make_eq_ok_iff.mp hmade) hlogged
  case h_3 output text hmade =>
    have hmakes := make_eq_ok_iff.mp hmade
    have hwrites := writes_writeOutput (log.record disk events) output text
    have hthen {place : List String} {next : Disk}
        (h : (log.record disk events).Extends {place} next) :
        disk.Extends (insert place (log.places disk)) next :=
      (hlogged.mono (Set.subset_insert _ _)).trans (h.mono (by simp))
    generalize writeOutput (log.record disk events) output text = result at hwrites
    cases hwrites with
    | refused hfailure h =>
      exact .refused hmakes hfailure (hlogged.trans (h.mono (Set.empty_subset _)))
    | emptied hcause hplace h hbytes =>
      exact .emptied hmakes hcause hplace (hthen h) hbytes
    | @written next place hplace h hbytes =>
      dsimp only
      have hnext := hthen h
      have hlast := log.extends_record next [.reportWritten output]
      rw [LogTarget.places_eq hnext] at hlast
      apply Performs.written hmakes
      use place, hlast.locate hplace, hnext.trans (hlast.mono (Set.subset_insert _ _))
      constructor
      · intro hlog
        apply Disk.read_eq_ok (hlast.locate hplace)
        rw [hlast.bytes place hlog, hbytes]
      · intro hlog
        apply Disk.read_eq_ok (hlast.locate hplace)
        apply (hopen.extends hnext).bytes?_record _ _ hbytes
        rw [LogTarget.places_eq hnext]
        exact hlog

/-- The log file that the arguments ask for, with records that are marked with the time `stamp`. -/
def Arguments.logTarget (arguments : Arguments) (stamp : String) : LogTarget :=
  { verbosity := arguments.verbosity, stamp, file := Arguments.pathOf? arguments.logFile }

/-- A command line that is understood is carried out once its log file is open. -/
theorem run_eq {words : List String}
    (h : Arguments.ofWords? installation.release words = some arguments) (disk : Disk)
    (created : DateTime) (stamp : String) :
  run installation disk created stamp words
    = match openLog (arguments.logTarget stamp) disk with
      | .error failure => (disk, { ending := .failed failure })
      | .ok opened => perform installation opened created (arguments.logTarget stamp) arguments
  := by
  rw [run, h]
  rfl

/-- A command writes a report without lone surrogates wherever it can write an empty file. -/
theorem ending_run_of_written {words : List String} {stamp text : String} {opened : Disk}
    {output : Path} (h : Arguments.ofWords? installation.release words = some arguments)
    (hopened : openLog (arguments.logTarget stamp) disk = .ok opened)
    (hmakes : Makes installation opened (arguments.logTarget stamp) created arguments
      (.written output text))
    (hencodable : Utf8.unencodable? text.toList = none)
    (hempty : (writeOutput ((arguments.logTarget stamp).record opened
      (make installation opened created (arguments.logTarget stamp) arguments).events) output "").2
        = .ok ()) :
  (run installation disk created stamp words).2.ending = .done
  := by
  have hwritten := writeOutput_of_encodable hencodable hempty
  rw [run_eq h, hopened]
  dsimp only
  rw [perform, make_eq_ok_iff.mpr hmakes]
  dsimp only
  generalize writeOutput _ output text = result at hwritten ⊢
  obtain ⟨next, done⟩ := result
  obtain rfl : done = .ok () := hwritten
  rfl

/-- The report that a command makes for a file has lone surrogates: it is no text of characters, and
has no bytes. -/
def MakesUnencodable (installation : Installation) (disk : Disk) (created : DateTime)
    (log : LogTarget) (arguments : Arguments) : Prop :=
  ∃ opened output text, openLog log disk = .ok opened
    ∧ Makes installation opened log created arguments (.written output text)
    ∧ (Utf8.unencodable? text.toList).isSome

/-- What a command leaves behind: the disk `next` instead of `disk`, and what it prints. -/
structure IsAllOrNothing (installation : Installation) (disk : Disk) (created : DateTime)
    (log : LogTarget) (arguments : Arguments) (next : Disk) (outcome : Outcome) : Prop where
  /-- A command that fails has printed nothing, and no file but the log file has changed, unless the
  report that it has made cannot be written. -/
  failed : outcome.ending ≠ .done →
    outcome.output = ""
      ∧ (disk.Extends (log.places disk) next
        ∨ MakesUnencodable installation disk created log arguments)
  /-- A list that is printed is that of a survey, and no file but the log file has changed. -/
  listed : outcome.ending = .done → arguments.action = .list →
    ∃ opened made, openLog log disk = .ok opened ∧ IsSurvey installation opened log arguments made
      ∧ outcome.output = summaryText made.catalog ∧ disk.Extends (log.places disk) next
  /-- A report that is made is printed, or it is all that the file for it holds. -/
  built : outcome.ending = .done → arguments.action = .build →
    ∃ opened made text, openLog log disk = .ok opened
      ∧ MakesReport installation opened log created arguments made text
      ∧ match outputOf arguments made.config with
        | none => outcome.output = text ∧ disk.Extends (log.places disk) next
        | some output => IsWritten disk log output text next
  /-- Once it has made what it is to print or to write, a command fails only to write that. -/
  completed : ∀ opened product, openLog log disk = .ok opened →
    Makes installation opened log created arguments product → outcome.ending = .done
      ∨ ∃ output text failure, product = .written output text
        ∧ outcome.ending = .failed failure ∧ failure.IsOfOutput output

section

variable {opened next : Disk} {text messages : String} {output : Path} {failure : Failure}

/-- A command that prints what it makes is all or nothing. -/
theorem isAllOrNothing_printed (hopened : openLog log disk = .ok opened)
    (hmakes : Makes installation opened log created arguments (.printed text))
    (h : disk.Extends (log.places disk) next) :
  IsAllOrNothing installation disk created log arguments next
    { ending := .done, output := text, messages }
  := by
  constructor
  case failed => exact fun hfailed => absurd rfl hfailed
  case listed =>
    intro _ hlist
    cases hmakes with
    | summary haction hsurvey => exact ⟨opened, _, hopened, hsurvey, rfl, h⟩
    | printed haction hreport houtput =>
      rw [hlist] at haction
      contradiction
  case built =>
    intro _ hbuild
    cases hmakes with
    | summary haction hsurvey =>
      rw [hbuild] at haction
      contradiction
    | printed haction hreport houtput =>
      refine ⟨opened, _, _, hopened, hreport, ?_⟩
      rw [houtput]
      exact ⟨rfl, h⟩
  case completed => exact fun _ _ _ _ => .inl rfl

/-- A command that writes what it makes is all or nothing. -/
theorem isAllOrNothing_written {said : String} (hopened : openLog log disk = .ok opened)
    (hmakes : Makes installation opened log created arguments (.written output text))
    (h : IsWritten disk log output text next) :
  IsAllOrNothing installation disk created log arguments next
    { ending := .done, output := said, messages }
  := by
  obtain _ | _ | ⟨haction, hreport, houtput⟩ := hmakes
  constructor
  case failed => exact fun hfailed => absurd rfl hfailed
  case listed =>
    intro _ hlist
    rw [hlist] at haction
    contradiction
  case built =>
    intro _ _
    refine ⟨opened, _, _, hopened, hreport, ?_⟩
    rw [houtput]
    exact h
  case completed => exact fun _ _ _ _ => .inl rfl

/-- A command that fails without a change is all or nothing, if it had nothing to print or to write
or failed to write that. -/
theorem isAllOrNothing_failed
    (h : disk.Extends (log.places disk) next
      ∨ MakesUnencodable installation disk created log arguments)
    (hmakes : ∀ opened product, openLog log disk = .ok opened →
      Makes installation opened log created arguments product →
        ∃ output text, product = .written output text ∧ failure.IsOfOutput output) :
  IsAllOrNothing installation disk created log arguments next
    { ending := .failed failure, messages }
  := by
  constructor
  case failed => exact fun _ => ⟨rfl, h⟩
  case listed => rintro ⟨⟩
  case built => rintro ⟨⟩
  case completed =>
    intro opened product hopened hproduct
    obtain ⟨output, text, rfl, hfailure⟩ := hmakes opened product hopened hproduct
    exact .inr ⟨output, text, failure, rfl, rfl, hfailure⟩

/-- A report that is not written is what the command was to write. -/
theorem isAllOrNothing_refused (hopened : openLog log disk = .ok opened)
    (hmakes : Makes installation opened log created arguments (.written output text))
    (hfailure : failure.IsOfOutput output)
    (h : disk.Extends (log.places disk) next
      ∨ MakesUnencodable installation disk created log arguments) :
  IsAllOrNothing installation disk created log arguments next
    { ending := .failed failure, messages }
  := by
  apply isAllOrNothing_failed h
  intro opened' product hopened' hproduct
  rw [hopened] at hopened'
  obtain rfl := Except.ok.inj hopened'
  exact ⟨output, text, hproduct.unique hmakes, hfailure⟩

end

/-- Whatever the files, the configuration and the arguments are, a command that fails leaves nothing
behind, and a command that succeeds has done all that it was to do, and nothing else. -/
theorem run_all_or_nothing (disk : Disk) (created : DateTime) (stamp : String)
    {words : List String} (h : Arguments.ofWords? installation.release words = some arguments) :
  IsAllOrNothing installation disk created (arguments.logTarget stamp) arguments
    (run installation disk created stamp words).1 (run installation disk created stamp words).2
  := by
  rw [run_eq h]
  generalize arguments.logTarget stamp = log
  cases hopened : openLog log disk with
  | error failure =>
    apply isAllOrNothing_failed (.inl (.refl _ disk))
    intro opened product hopened'
    rw [hopened] at hopened'
    contradiction
  | ok opened =>
    dsimp only
    obtain ⟨hextends, hopen⟩ := openLog_eq_ok hopened
    have hplaces : log.places opened = log.places disk := LogTarget.places_eq hextends
    have hperforms : Performs installation opened created log arguments
        (perform installation opened created log arguments) :=
      performs_perform hopen
    generalize perform installation opened created log arguments = result at hperforms
    cases hperforms with
    | unmade hmakes h =>
      rw [hplaces] at h
      apply isAllOrNothing_failed (.inl (hextends.trans h))
      intro opened' product hopened' hproduct
      rw [hopened] at hopened'
      obtain rfl := Except.ok.inj hopened'
      exact absurd hproduct (hmakes product)
    | refused hmakes hfailure h =>
      rw [hplaces] at h
      exact isAllOrNothing_refused hopened hmakes hfailure (.inl (hextends.trans h))
    | emptied hmakes hcause hplace h hbytes =>
      apply isAllOrNothing_refused hopened hmakes
      · exact trivial
      · right
        refine ⟨opened, _, _, hopened, hmakes, ?_⟩
        rw [hcause, Option.isSome_some]
    | printed hmakes h =>
      rw [hplaces] at h
      exact isAllOrNothing_printed hopened hmakes (hextends.trans h)
    | written hmakes h => exact isAllOrNothing_written hopened hmakes (h.of_opened hopened)

namespace IsAllOrNothing

variable {opened next : Disk} {outcome : Outcome} {text : String} {output : Path}

/-- A report that is made for a file is all that the file holds once the command has ended well. -/
theorem isWritten
    (h : IsAllOrNothing installation disk created log arguments next outcome)
    (hopened : openLog log disk = .ok opened)
    (hmakes : Makes installation opened log created arguments (.written output text))
    (hdone : outcome.ending = .done) :
  IsWritten disk log output text next
  := by
  cases hmakes with
  | written haction hreport houtput =>
    obtain ⟨opened', made, text', hopened', hreport', hleft⟩ := h.built hdone haction
    rw [hopened] at hopened'
    obtain rfl := Except.ok.inj hopened'
    obtain rfl := hreport.1.unique hreport'.1
    rw [houtput] at hleft
    have hunique := Makes.unique (.written haction hreport houtput)
      (.written haction hreport' houtput)
    obtain ⟨-, rfl⟩ := Product.written.inj hunique
    exact hleft

/-- A command ends well and prints what it makes to be printed. -/
theorem output_eq
    (h : IsAllOrNothing installation disk created log arguments next outcome)
    (hopened : openLog log disk = .ok opened)
    (hmakes : Makes installation opened log created arguments (.printed text)) :
  outcome.ending = .done ∧ outcome.output = text
  := by
  have hdone : outcome.ending = .done := by
    obtain hdone | ⟨_, _, _, hproduct, -⟩ := h.completed opened _ hopened hmakes
    · exact hdone
    · contradiction
  use hdone
  cases hmakes with
  | summary haction hsurvey =>
    obtain ⟨opened', made, hopened', hsurvey', houtput, -⟩ := h.listed hdone haction
    rw [hopened] at hopened'
    obtain rfl := Except.ok.inj hopened'
    rw [hsurvey.unique hsurvey', houtput]
  | printed haction hreport hnone =>
    obtain ⟨opened', made, text', hopened', hreport', hleft⟩ := h.built hdone haction
    rw [hopened] at hopened'
    obtain rfl := Except.ok.inj hopened'
    obtain rfl := hreport.1.unique hreport'.1
    rw [hnone] at hleft
    have hunique := Makes.unique (.printed haction hreport hnone) (.printed haction hreport' hnone)
    obtain rfl := Product.printed.inj hunique
    exact hleft.1

end IsAllOrNothing

end

/-! ### A small library -/

/-- A manifest of one class, which has one method. -/
def cacheManifest : String :=
  "symbols:\n- name: App\\Cache\n  doc: '/** Keeps values. */'\n  methods:\n    get:\n"

/-- A disk with this manifest. -/
def cacheDisk : Disk where
  tree := .directory [("lib", .directory [
    ("app.symbols.yml", .file cacheManifest.toByteArray.data.toList)])]
  here := { root := .absolute }

/-- The first second of a year. -/
def newYear : DateTime :=
  { date := ⟨2024, 1, 1⟩, hour := 0, minute := 0, second := 0 }

/-- The words ask for a command that is all or nothing on this disk, and what it leaves behind has
the property `P`. -/
def Leaves (words : List String) (arguments : Arguments) (P : Disk → Outcome → Prop) : Prop :=
  IsAllOrNothing installed cacheDisk newYear (arguments.logTarget "00:00") arguments
      (run installed cacheDisk newYear "00:00" words).1
      (run installed cacheDisk newYear "00:00" words).2
    ∧ P (run installed cacheDisk newYear "00:00" words).1
      (run installed cacheDisk newYear "00:00" words).2

/-- The summary of the library. -/
def cacheSummary : String :=
  "App\n  Cache: 0 constants, 0 properties, 1 methods\n"

/-- What asks for the page of the library. -/
def pageArguments : Arguments :=
  { action := .build, targets := ["lib"] }

/-- What asks for the export of the library in a file. -/
def exportArguments : Arguments :=
  { pageArguments with output := some "api.json", format := some .json }

/-- The command for the page prints it with the style sheet of the program. -/
theorem exists_makes_cachePage :
  ∃ made : Survey, summaryText made.catalog = cacheSummary
    ∧ Makes installed cacheDisk (pageArguments.logTarget "00:00") newYear pageArguments
      (.printed ((contentOf installed newYear pageArguments made).html Report.defaultStyle))
  := by
  obtain ⟨made, hmade, hsummary, hformat, houtput, htemplates⟩ :
      ∃ made ∈ (survey installed cacheDisk (pageArguments.logTarget "00:00")
        pageArguments).result.toOption, summaryText made.catalog = cacheSummary
          ∧ made.config.format = .html ∧ made.config.output = none
          ∧ made.config.templates = none := by
    decide +kernel
  have hsurvey := survey_eq_ok_iff.mp (toOption_eq_some_iff.mp hmade)
  have hstyle (disk : Disk) :
      Report.plainStyle? disk made.config.templates = some Report.defaultStyle := by
    rw [htemplates]
    rfl
  have hpage (disk : Disk) := Report.isFaithful_plainEngine disk made.config.templates
    (contentOf installed newYear pageArguments made) Report.defaultStyle (hstyle disk)
  use made, hsummary
  refine .printed rfl ⟨hsurvey, .html hformat (hpage _) fun _ style h => ?_⟩ houtput
  rw [hstyle] at h
  rw [Option.some.inj h]

/-- The command for the export makes it for its file, and it has no lone surrogates. -/
theorem exists_makes_cacheExport :
  ∃ made : Survey, summaryText made.catalog = cacheSummary
    ∧ Utf8.unencodable? (Export.json made.catalog).toList = none
    ∧ Makes installed cacheDisk (exportArguments.logTarget "00:00") newYear exportArguments
      (.written (.ofText "api.json") (Export.json made.catalog))
  := by
  obtain ⟨made, hmade, hsummary, hbytes⟩ :
      ∃ made ∈ (survey installed cacheDisk (exportArguments.logTarget "00:00")
        exportArguments).result.toOption, summaryText made.catalog = cacheSummary
          ∧ 0xED ∉ (Export.json made.catalog).toByteArray.data.toList := by
    decide +kernel
  have hsurvey := survey_eq_ok_iff.mp (toOption_eq_some_iff.mp hmade)
  exact ⟨made, hsummary, Text.unencodable?_of_bytes hbytes, .written rfl ⟨hsurvey, .json rfl⟩ rfl⟩

/-- The summary and the page of the library are printed, the export is written to its file, and
nothing is left of an export with a target that is not there but a log file. -/
theorem run_cacheWords :
  Leaves ["list", "lib"] { action := .list, targets := ["lib"] }
      (fun _ outcome => outcome.ending.status? = some 0 ∧ outcome.output = cacheSummary)
    ∧ Leaves ["build", "lib"] pageArguments (fun _ outcome => outcome.ending = .done
      ∧ ∃ made : Survey, summaryText made.catalog = cacheSummary
        ∧ outcome.output
          = (contentOf installed newYear pageArguments made).html Report.defaultStyle)
    ∧ Leaves ["build", "lib", "--format", "json", "-o", "api.json"] exportArguments
      (fun next outcome => outcome.ending = .done
        ∧ ∃ made : Survey, summaryText made.catalog = cacheSummary
          ∧ next.read (.ofText "api.json") = .ok (Utf8.encode (Export.json made.catalog)))
    ∧ Leaves ["--log-file", "run.log", "build", "lib", "gone", "--format", "json", "-o", "api.json"]
      { exportArguments with logFile := some "run.log", targets := ["lib", "gone"] }
      (fun next outcome => outcome.ending.status? = some 1
        ∧ (next.read (.ofText "api.json")).toOption = none)
  := by
  obtain ⟨shown, hshown, hpage⟩ := exists_makes_cachePage
  obtain ⟨kept, hkept, hencodable, hwritten⟩ := exists_makes_cacheExport
  refine ⟨⟨run_all_or_nothing _ _ _ ?_, ?_⟩, ?_, ?_, ⟨run_all_or_nothing _ _ _ ?_, ?_⟩⟩
  · decide +kernel
  · decide +kernel
  · have hrun := run_all_or_nothing cacheDisk newYear "00:00"
      (show Arguments.ofWords? installed.release ["build", "lib"] = some pageArguments by
        decide +kernel)
    obtain ⟨hdone, houtput⟩ := hrun.output_eq rfl hpage
    exact ⟨hrun, hdone, shown, hshown, houtput⟩
  · have hwords : Arguments.ofWords? installed.release
        ["build", "lib", "--format", "json", "-o", "api.json"] = some exportArguments := by
      decide +kernel
    have hrun := run_all_or_nothing cacheDisk newYear "00:00" hwords
    have hdone := ending_run_of_written hwords rfl hwritten hencodable rfl
    obtain ⟨place, hplace, -, hread, -⟩ := hrun.isWritten rfl hwritten hdone
    refine ⟨hrun, hdone, kept, hkept, hread ?_⟩
    rintro ⟨p, hp, -⟩
    contradiction
  · decide +kernel
  · decide +kernel

end DocTable.Command
