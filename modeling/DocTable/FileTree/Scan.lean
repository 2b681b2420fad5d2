import DocTable.FileTree.Access

/-!
# Scanning directories

`FileTree.filesBelow` lists the accepted files below a directory: its own files by their names, then
those below each directory in it, by the names of these.  Directories that tools keep for
themselves, and those that the caller names, are left out with everything below them.
-/

namespace DocTable

/-- The directories of tools. -/
def toolDirectories : List String :=
  [".git", ".hg", ".svn", ".venv", "node_modules", "__pycache__", ".pytest_cache", ".mypy_cache",
    ".idea"]

/-- The files of tools. -/
def toolFiles : List String := [".DS_Store", "Thumbs.db"]

namespace FileTree

/-- The name of an entry that is a file. -/
def fileName? : String × FileTree → Option String
  | (name, file _) => some name
  | (_, directory _) => none

/-- The texts in the order of their code points. -/
def sortNames (names : List String) : List String :=
  names.mergeSort fun a b => decide (a ≤ b)

/-- The accepted files among the entries of the directory `here`. -/
def ownFiles (accepts : Path → Bool) (here : Path) (entries : List (String × FileTree)) :
    List Path :=
  ((sortNames ((entries.filterMap fileName?).filter (· ∉ toolFiles))).map here.child).filter accepts

/-- Named lists joined in the order of their names. -/
def joinSorted {α : Type} (parts : List (String × List α)) : List α :=
  (parts.mergeSort fun a b => decide (a.1 ≤ b.1)).flatMap Prod.snd

mutual

/-- The accepted files below `here`, in order. -/
def filesBelow (accepts : Path → Bool) (exclude : List String) (here : Path) :
    FileTree → List Path
  | file _ => []
  | directory entries =>
    ownFiles accepts here entries ++ joinSorted (partsBelow accepts exclude here entries)

/-- The accepted files below each directory among the entries of `here`. -/
def partsBelow (accepts : Path → Bool) (exclude : List String) (here : Path) :
    List (String × FileTree) → List (String × List Path)
  | [] => []
  | (name, tree) :: entries =>
    let parts := partsBelow accepts exclude here entries
    if name ∈ toolDirectories ∨ name ∈ exclude then parts
    else (name, filesBelow accepts exclude (here.child name) tree) :: parts

end

end FileTree

/-- Why a directory cannot be scanned. -/
inductive ScanFailure where
  | notFound (root : Path)
  | notDirectory (root : Path)
  | refused (cause : FileError)
  deriving DecidableEq, Repr

/-- What is said of a directory that cannot be scanned. -/
def ScanFailure.message : ScanFailure → String
  | notFound root => "Path not found: " ++ root.text
  | notDirectory root => "Path is not a directory: " ++ root.text
  | refused cause => cause.message

/-- The accepted files below a directory, in order. -/
def Disk.scan (disk : Disk) (accepts : Path → Bool) (exclude : List String) (root : Path) :
    Except ScanFailure (List Path) :=
  match disk.find? root with
  | .error cause => .error (.refused cause)
  | .ok none => .error (.notFound root)
  | .ok (some tree) =>
    if tree.isDirectory then .ok (tree.filesBelow accepts exclude root)
    else .error (.notDirectory root)

end DocTable
