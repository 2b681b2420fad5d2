import DocTable.Catalog
import DocTable.FileTree.Scan
import DocTable.Introspector.Basic

/-!
# Inspections

An inspection reads all accepted files below a directory and adds their symbols to the catalog as
one batch.  Source files below the base directory are named from there on.
-/

namespace DocTable

namespace Symbol

/-- The symbol with its source file named from `base` on, if it lies there. -/
def relativeTo (base : Path) (s : Symbol) : Symbol :=
  let source := Path.ofText s.sourceFile
  if s.sourceFile ≠ "" ∧ source.isAbsolute then
    match source.relativeTo? base with
    | some short => { s with sourceFile := short.text }
    | none => s
  else s

end Symbol

namespace Inspection

/-- Why an inspection fails. -/
inductive Failure (ε : Type) where
  | scan (cause : ScanFailure)
  | noPath (cause : PathFault)
  | introspector (cause : ε)
  | conflict (cause : Conflict)
  deriving Repr

/-- Where an inspection looks, and with which introspectors. -/
structure Setup (ε : Type) where
  disk : Disk
  /-- The disk with the log records of some events. -/
  record : Disk → List Event → Disk := fun disk _ => disk
  /-- The directory from which targets and source files are named, an absolute path. -/
  base : Path
  introspectors : List (Introspector ε)

variable {ε : Type}

/-- The symbols of a file, read after the events `earlier`. -/
def fileSymbols (setup : Setup ε) (earlier : List Event) (file : Path) :
    Logged (Failure ε) (List Symbol) := do
  let disk := setup.record setup.disk earlier
  let found ← match Introspector.select? setup.introspectors file with
    | some i => (i.inspect disk file).mapError .introspector
    | none => pure []
  Logged.report [.fileRead file found.length]
  pure (found.map (Symbol.relativeTo setup.base))

/-- The catalog with a batch of symbols. -/
def ingest (catalog : Catalog) (batch : List Symbol) : Logged (Failure ε) Catalog :=
  match catalog.ingest batch with
  | .error c => throw (.conflict c)
  | .ok next =>
    ⟨(catalog.replacements batch).map (fun s => .replacing s.fullName)
      ++ [.ingested batch.length], .ok next⟩

/-- The directory that a target names. -/
def targetOf (setup : Setup ε) (target : String) : Except (Failure ε) Path :=
  ((setup.base.join (.ofText target)).resolve setup.base).mapError .noPath

/-- The symbols of all accepted files below a directory, read after the events `earlier`. -/
def collect (setup : Setup ε) (earlier : List Event) (exclude : List String) (target : Path) :
    Logged (Failure ε) (List Symbol) := do
  let accepts := Introspector.anyAccepts setup.introspectors
  let files ← Logged.ofExcept ((setup.disk.scan accepts exclude target).mapError .scan)
  let found ← Logged.forAllAfter (fileSymbols setup) earlier files
  pure found.flatten

/-- The place of a target, where an inspection begins. -/
def enter (setup : Setup ε) (target : String) : Logged (Failure ε) Path := do
  let place ← targetOf setup target
  let isThere ← Logged.ofExcept ((setup.disk.hasPath place).mapError fun e => .scan (.refused e))
  if !isThere then throw (.scan (.notFound place))
  Logged.report [.inspecting place]
  pure place

/-- The catalog after the inspection of a target, and after the events `earlier`. -/
def run (setup : Setup ε) (earlier : List Event) (catalog : Catalog) (target : String)
    (exclude : List String) : Logged (Failure ε) Catalog := do
  let entered := enter setup target
  let place ← entered
  let batch ← collect setup (earlier ++ entered.events) exclude place
  let next ← ingest catalog batch
  Logged.report [.collected batch.length place]
  pure next

end Inspection

end DocTable
