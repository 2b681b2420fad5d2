import DocTable.Command.Installed
import DocTable.Command.Places
import DocTable.Command.Run
import DocTable.FileTree.Changes
import Std.Time.DateTime
import Std.Time.Zoned

/-!
# The program

`main` reads the files that a command looks at, carries the command out on them, and writes what it
has changed.
-/

namespace DocTable.Program

open Command (installed)

/-! ### Reading -/

/-- What lies at a place: a directory or not, if there is anything. -/
def isDirectory? (place : String) : IO (Option Bool) := do
  try
    let data ← ((← IO.currentDir) / place).metadata
    pure (some (data.type matches .dir))
  catch _ => pure none

/-- What lies at a place is no link to somewhere else. -/
def isOwn (place : String) : IO Bool := do
  let data ← ((← IO.currentDir) / place).symlinkMetadata
  pure !(data.type matches .symlink)

/-- The names of the entries of a directory. -/
def entryNames (place : String) : IO (List String) := do
  let entries ← ((← IO.currentDir) / place).readDir
  pure (entries.toList.map (·.fileName))

/-- The bytes of a file. -/
def fileBytes (place : String) : IO (List UInt8) := do
  pure (← IO.FS.readBinFile place).toList

/-- The absolute path with the given names. -/
def placeOf (names : List String) : Path := { root := .absolute, names }

/-- The disk with what lies at a place, if nothing is known of it yet, and whether that is a
directory. -/
def addPlace (disk : Disk) (names : List String) : IO (Disk × Bool) := do
  let known := (disk.tree.get? names).map FileTree.isDirectory
  match known, ← isDirectory? (placeOf names).text with
  | some true, _ => pure (disk, true)
  | _, none => pure (disk, false)
  | _, some true => pure ({ disk with tree := disk.tree.put names (.directory []) }, true)
  | _, some false =>
    let bytes ← fileBytes (placeOf names).text
    pure ({ disk with tree := disk.tree.put names (.file bytes) }, false)

/-- The disk with what lies on the way along `names` from the place `here` on. -/
def addWay (disk : Disk) (here : List String) : List String → IO Disk
  | [] => pure disk
  | name :: names => do
    let next := if name = ".." then here.dropLast else here ++ [name]
    let (disk, goesOn) ← addPlace disk next
    if goesOn then addWay disk next names else pure disk

/-- The disk with what lies on the way to some paths. -/
def addWays (disk : Disk) (paths : List Path) : IO Disk :=
  (paths.filter (·.fault?.isNone)).foldlM (fun disk p => addWay disk [] (disk.names p)) disk

/-- The disk with everything below a directory but the directories of tools.  Of files that are no
manifests only the names are read. -/
partial def addBelow (disk : Disk) (here : List String) : IO Disk := do
  let names ← entryNames (placeOf here).text
  names.foldlM (fun disk name => do
    let place := here ++ [name]
    let text := (placeOf place).text
    match ← isDirectory? text with
    | none => pure disk
    | some true =>
      if name ∈ toolDirectories || !(← isOwn text) then pure disk
      else addBelow (← addPlace disk place).1 place
    | some false =>
      if Manifest.accepts (placeOf place) then pure (← addPlace disk place).1
      else if (disk.tree.get? place).isSome then pure disk
      else pure { disk with tree := disk.tree.put place (.file []) }) disk

/-- The disk with everything below some directories. -/
def addTargets (disk : Disk) (paths : List Path) : IO Disk :=
  paths.foldlM (fun disk p => do
    let disk ← addWays disk [p]
    match disk.find? p, disk.locate p with
    | .ok (some (.directory _)), .ok place => addBelow disk place
    | _, _ => pure disk) disk

/-- The disk as far as a command looks at it. -/
def diskFor (arguments : Command.Arguments) : IO Disk := do
  let here := Path.ofText (← IO.currentDir).toString
  let home ← IO.getEnv "HOME"
  let homes (user : String) := if user = "" then home else none
  let disk : Disk := { tree := .directory [], here, homes }
  let disk ← addWays disk ({} :: arguments.configPlaces disk)
  let disk ← addWays disk (arguments.filePlaces installed.loadYaml disk)
  addTargets disk (arguments.targetPlaces installed.loadYaml disk)

/-! ### Writing -/

/-- Writes what has changed. -/
def writeChanges (before next : FileTree) : IO Unit :=
  for (names, contents) in before.changes next do
    let place := (placeOf names).text
    match contents with
    | none => IO.FS.createDirAll place
    | some bytes => IO.FS.writeBinFile place ⟨bytes.toArray⟩

/-! ### Running -/

/-- The present moment in universal time. -/
def present : IO DateTime := do
  let now := Std.Time.DateTime.ofTimestampWithZone (← Std.Time.Timestamp.now) .UTC
  pure {
    date := ⟨now.year.toInt.toNat, now.month.toInt.toNat, now.day.toInt.toNat⟩
    hour := now.hour.toInt.toNat
    minute := now.minute.toInt.toNat
    second := now.second.toInt.toNat
    offset := some 0 }

/-- The time that log records are marked with. -/
def logStamp : IO String := do
  let now ← Std.Time.PlainDateTime.now
  let moment : DateTime := {
    date := ⟨now.year.toInt.toNat, now.month.toInt.toNat, now.day.toInt.toNat⟩
    hour := now.hour.toInt.toNat
    minute := now.minute.toInt.toNat
    second := now.second.toInt.toNat }
  pure (moment.text " " ++ ","
    ++ String.ofList (Decimal.paddedDigits 3 now.millisecond.toInt.toNat))

/-- The words for a command line that cannot be understood. -/
def usage : String :=
  "usage: doctracer [-v] [--log-file FILE] build [-v] [--base-dir DIR] [--config PATH]\n"
    ++ "         [--exclude NAME] [-o FILE] [--format html|json] [--title TEXT]\n"
    ++ "         [--tagline TEXT] [--footer TEXT] [--theme NAME] [TARGET ...]\n"
    ++ "       doctracer [-v] [--log-file FILE] list [-v] [--base-dir DIR] [--config PATH]\n"
    ++ "         [--exclude NAME] [TARGET ...]\n"

/-- Carries out a command line. -/
def run (words : List String) : IO UInt32 := do
  let disk ← match Command.Arguments.ofWords? installed.release words with
    | some arguments => diskFor arguments
    | none => pure { tree := .directory [], here := {} }
  let (next, outcome) := Command.run installed disk (← present) (← logStamp) words
  writeChanges disk.tree next.tree
  let errors ← IO.getStderr
  errors.putStr outcome.messages
  match outcome.ending with
  | .misused => errors.putStr usage
  | .failed failure => if !failure.isExpected then errors.putStrLn failure.message
  | .done => pure ()
  (← IO.getStdout).putStr outcome.output
  pure ((outcome.ending.status?.getD 1).toUInt32)

end DocTable.Program

/-- Carries out the command line. -/
def main (words : List String) : IO UInt32 :=
  DocTable.Program.run words
