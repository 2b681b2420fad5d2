import DocTable.FileTree.Basic
import DocTable.Text.Quoted
import DocTable.Text.Utf8

/-!
# Reading and writing files

A `Disk` is a file tree with a working directory.  Its operations answer with a value or a new disk,
or refuse with a fault and the path in question.
-/

namespace DocTable

/-- A refused operation on a path. -/
structure FileError where
  fault : FileFault
  path : Path
  deriving DecidableEq, Repr

/-- What is said of a refused operation. -/
def FileError.message (e : FileError) : String :=
  "[Errno " ++ toString e.fault.number ++ "] " ++ e.fault.words ++ ": "
    ++ Text.quoted e.path.text

/-- The files that a program sees. -/
structure Disk where
  tree : FileTree
  /-- The working directory, an absolute path. -/
  here : Path
  /-- The home directories of users; the empty name is that of the user who asks. -/
  homes : String → Option String := fun _ => none

namespace Disk

/-- The names of a path from the root of the tree on. -/
def names (disk : Disk) (p : Path) : List String :=
  (disk.here.join p).names

/-- The longest path, in bytes. -/
def longestPath : Nat := 4095

/-- Refuses a path that is too long as it is written. -/
def checkLength (p : Path) : Except FileFault Unit :=
  if longestPath < Text.Utf8.nameSize p.text then .error .nameTooLong else .ok ()

/-- The place of a path that exists. -/
def locate (disk : Disk) (p : Path) : Except FileFault (List String) := do
  checkLength p
  disk.tree.locate [] (disk.names p)

/-- What a path leads to, if it exists. -/
def find? (disk : Disk) (p : Path) : Except FileError (Option FileTree) :=
  if p.fault?.isSome then .ok none
  else
    match disk.locate p with
    | .ok place => .ok (disk.tree.get? place)
    | .error .nameTooLong => .error ⟨.nameTooLong, p⟩
    | .error _ => .ok none

/-- The path leads to a file or a directory. -/
def hasPath (disk : Disk) (p : Path) : Except FileError Bool :=
  (disk.find? p).map Option.isSome

/-- The path leads to a directory. -/
def hasDirectory (disk : Disk) (p : Path) : Except FileError Bool :=
  (disk.find? p).map fun found => found.any FileTree.isDirectory

/-- The bytes of a file. -/
def read (disk : Disk) (p : Path) : Except FileError (List UInt8) :=
  match disk.locate p with
  | .error fault => .error ⟨fault, p⟩
  | .ok place =>
    match disk.tree.get? place with
    | some (.file contents) => .ok contents
    | some (.directory _) => .error ⟨.isDirectory, p⟩
    | none => .error ⟨.notFound, p⟩

/-- The place of a path the last name of which may be new. -/
def locateNew (disk : Disk) (p : Path) : Except FileFault (List String) := do
  checkLength p
  let names := disk.names p
  match names.getLast? with
  | none => .ok []
  | some ".." => disk.tree.locate [] names
  | some name => do
    let place ← disk.tree.locate [] names.dropLast
    match disk.tree.get? place with
    | some (.directory _) =>
      if FileTree.longestName < Text.Utf8.nameSize name then .error .nameTooLong
      else .ok (place ++ [name])
    | _ => .error .notDirectory

/-- The disk with `f` applied to the bytes of a file; a missing file counts as empty. -/
def modifyFile (disk : Disk) (p : Path) (f : List UInt8 → List UInt8) : Except FileError Disk :=
  match disk.locateNew p with
  | .error fault => .error ⟨fault, p⟩
  | .ok place =>
    match disk.tree.get? place with
    | some (.directory _) => .error ⟨.isDirectory, p⟩
    | some (.file contents) =>
      .ok { disk with tree := disk.tree.put place (.file (f contents)) }
    | none => .ok { disk with tree := disk.tree.put place (.file (f [])) }

/-- The disk with a text in a file, instead of what was there. -/
def write (disk : Disk) (p : Path) (text : String) : Except FileError Disk :=
  disk.modifyFile p fun _ => Text.Utf8.encode text

/-- The disk with a text at the end of a file. -/
def append (disk : Disk) (p : Path) (text : String) : Except FileError Disk :=
  disk.modifyFile p (· ++ Text.Utf8.encode text)

/-- The disk with a new directory. -/
def makeDirectory (disk : Disk) (p : Path) : Except FileError Disk :=
  match disk.locateNew p with
  | .error fault => .error ⟨fault, p⟩
  | .ok place =>
    if (disk.tree.get? place).isSome then .error ⟨.alreadyExists, p⟩
    else .ok { disk with tree := disk.tree.put place (.directory []) }

/-- The disk unless the refusal `e` matters: a directory that is there already will do. -/
def unlessDirectory (disk : Disk) (e : FileError) : Except FileError Disk := do
  if ← disk.hasDirectory e.path then pure disk else throw e

/-- The disk with a directory below `root` and all directories above it, given by its names from
the last to the first. -/
def makeDirectoriesUp (root : Path.Root) : List String → Disk → Except FileError Disk
  | [], disk => .ok disk
  | name :: above, disk =>
    let p : Path := ⟨root, (name :: above).reverse⟩
    match disk.makeDirectory p with
    | .ok made => .ok made
    | .error ⟨.notFound, _⟩ => do
      let deeper ← makeDirectoriesUp root above disk
      match deeper.makeDirectory p with
      | .ok made => .ok made
      | .error ⟨.notFound, q⟩ => .error ⟨.notFound, q⟩
      | .error e => deeper.unlessDirectory e
    | .error e => disk.unlessDirectory e

/-- The disk with a directory and all directories above it. -/
def makeDirectories (disk : Disk) (p : Path) : Except FileError Disk :=
  makeDirectoriesUp p.root p.names.reverse disk

end Disk

/-- The text of the bytes of a file: they are UTF-8, and every line break is a line feed. -/
def Text.ofBytes (bytes : List UInt8) : Except Text.Utf8.Fault String :=
  (Text.Utf8.decode bytes).map fun cs => String.ofList (Text.unifyBreaks cs)

end DocTable
