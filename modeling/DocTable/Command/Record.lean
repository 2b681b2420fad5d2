import DocTable.FileTree.Access
import DocTable.Log

/-!
# Log records

A command shows events as log records, and writes them to a log file too if there is one.
`LogTarget.record` is the disk with the records of some events in the log file.
-/

namespace DocTable.Command

/-- An event is shown: details when they are asked for, and tags that cannot be read when they are
asked for twice. -/
def isShown (verbosity : Nat) (event : Event) : Bool :=
  match event, event.level with
  | _, .progress => true
  | .malformedTag _ _, .detail => 2 ≤ verbosity
  | _, .detail => 1 ≤ verbosity

/-- The events that are shown. -/
def shown (verbosity : Nat) (events : List Event) : List Event :=
  events.filter (isShown verbosity)

/-- A log record as it is printed. -/
def consoleLine (verbosity : Nat) (event : Event) : String :=
  "[doctracer] " ++ event.level.word ++ " "
    ++ (if verbosity = 0 then "" else event.source ++ ": ") ++ event.message ++ "\n"

/-- A log record as it stands in the log file, with the time `stamp`. -/
def fileLine (stamp : String) (event : Event) : String :=
  stamp ++ " " ++ event.level.word ++ " " ++ event.source ++ ": " ++ event.message ++ "\n"

/-- The records of events as they are printed. -/
def consoleText (verbosity : Nat) (events : List Event) : String :=
  String.join ((shown verbosity events).map (consoleLine verbosity))

/-- The text of a record has bytes. -/
def hasBytes (line : String) : Bool :=
  (Text.Utf8.unencodable? line.toList).isNone

/-- The records of events as they stand in the log file.  One that has no bytes is left out. -/
def logText (verbosity : Nat) (stamp : String) (events : List Event) : String :=
  String.join (((shown verbosity events).map (fileLine stamp)).filter hasBytes)

/-- Where the log records of a command go. -/
structure LogTarget where
  verbosity : Nat
  stamp : String
  file : Option Path

namespace LogTarget

/-- The disk with the records of events at the end of the log file, or a refusal. -/
def append (target : LogTarget) (disk : Disk) (events : List Event) : Except FileError Disk :=
  match target.file with
  | none => .ok disk
  | some p =>
    disk.append (disk.here.join p).normalized (logText target.verbosity target.stamp events)

/-- The disk with the records of events at the end of an open log file. -/
def record (target : LogTarget) (disk : Disk) (events : List Event) : Disk :=
  (target.append disk events).toOption.getD disk

end LogTarget

end DocTable.Command
