import DocTable.FileTree.Basic

/-!
# Changes of file trees

`FileTree.changes` lists what has to be written to turn one file tree into another that has all its
entries.
-/

namespace DocTable.FileTree

/-- The bytes of a file; a directory has none. -/
def contents? : FileTree → Option (List UInt8)
  | file contents => some contents
  | directory _ => none

mutual

/-- The places of a tree at the place `here`, from the top, with the bytes of the files. -/
def places (here : List String) : FileTree → List (List String × Option (List UInt8))
  | file contents => [(here, some contents)]
  | directory entries => (here, none) :: placesBelow here entries

/-- The places below the directory `here`. -/
def placesBelow (here : List String) :
    List (String × FileTree) → List (List String × Option (List UInt8))
  | [] => []
  | (name, tree) :: entries => tree.places (here ++ [name]) ++ placesBelow here entries

end

/-- The places of `next` that are not so in `before`: directories, and files with their bytes. -/
def changes (before next : FileTree) : List (List String × Option (List UInt8)) :=
  (next.places []).filter fun (place, contents) =>
    (before.get? place).map contents? ≠ some contents

end DocTable.FileTree
