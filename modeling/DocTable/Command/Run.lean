import DocTable.Command.Product

/-!
# Running a command

`Command.run` carries out a command line on a disk.  A command prints and writes nothing before it
has made everything; only the log file grows in any case.
-/

namespace DocTable.Command

/-- How a command ends. -/
inductive Ending where
  | done
  /-- The command line cannot be understood. -/
  | misused
  | failed (failure : Failure)

/-- What a command prints, and how it ends. -/
structure Outcome where
  ending : Ending
  output : String := ""
  /-- The log records that are shown, and the report of a failure. -/
  messages : String := ""

/-- The status that a command ends with; a failure that it does not expect has none. -/
def Ending.status? : Ending → Option Nat
  | done => some 0
  | misused => some 2
  | failed failure => if failure.isExpected then some 1 else none

/-! ### Effects -/

/-- The disk with an open log file, which is made when it is missing. -/
def openLog (target : LogTarget) (disk : Disk) : Except Failure Disk :=
  match target.file.bind fun p => (disk.here.join p).normalized.fault? with
  | some cause => .error (.noPath cause)
  | none => (target.append disk []).mapError .noLog

/-- The report of a failure. -/
def failureText (action : Action) (failure : Failure) : String :=
  if failure.isExpected then
    "doctracer " ++ action.word ++ " failed: " ++ failure.message ++ "\n"
  else ""

/-- The disk with a text in a file whose directory is there.  The file is empty when the text cannot
be written. -/
def writeText (disk : Disk) (output : Path) (text : String) : Disk × Except Failure Unit :=
  match output.fault? with
  | some cause => (disk, .error (.noPath cause))
  | none =>
    let fault := Text.Utf8.unencodable? text.toList
    match disk.write output (if fault.isSome then "" else text), fault with
    | .error cause, _ => (disk, .error (.noOutput output cause))
    | .ok emptied, some cause => (emptied, .error (.unencodable cause))
    | .ok written, none => (written, .ok ())

/-- The disk with a text in the file `output`, in a directory that is made when it is missing. -/
def writeOutput (disk : Disk) (output : Path) (text : String) : Disk × Except Failure Unit :=
  match output.parent.fault? with
  | some cause => (disk, .error (.noPath cause))
  | none =>
    match disk.makeDirectories output.parent with
    | .error cause => (disk, .error (.noOutput output cause))
    | .ok made => writeText made output text

/-- The name by which a written file is printed: from the working directory on, if it lies there. -/
def shownName (here output : Path) : String :=
  (((here.join output).normalized.relativeTo? here).getD output).text

section

variable [Escaping] (installation : Installation) (disk : Disk) (created : DateTime)

/-- Carries out what the arguments ask for, on a disk with an open log file. -/
def perform (target : LogTarget) (arguments : Arguments) : Disk × Outcome :=
  let made := make installation disk created target arguments
  let console := consoleText target.verbosity made.events
  let logged := target.record disk made.events
  let failing (failure : Failure) : Outcome :=
    { ending := .failed failure, messages := console ++ failureText arguments.action failure }
  match made.result with
  | .error failure => (logged, failing failure)
  | .ok (.printed text) => (logged, { ending := .done, output := text, messages := console })
  | .ok (.written output text) =>
    match writeOutput logged output text with
    | (next, .error failure) => (next, failing failure)
    | (next, .ok ()) =>
      let events := [Event.reportWritten output]
      (target.record next events, {
        ending := .done
        output := "Report written to " ++ shownName disk.here output ++ "\n"
        messages := console ++ consoleText target.verbosity events })

/-- Carries out a command line.  The page is marked with the time `created`, and the records of the
log file with the time `stamp`. -/
def run (stamp : String) (words : List String) : Disk × Outcome :=
  match Arguments.ofWords? installation.release words with
  | none => (disk, { ending := .misused })
  | some arguments =>
    let target : LogTarget :=
      { verbosity := arguments.verbosity, stamp, file := Arguments.pathOf? arguments.logFile }
    match openLog target disk with
    | .error failure => (disk, { ending := .failed failure })
    | .ok opened => perform installation opened created target arguments

end

end DocTable.Command
