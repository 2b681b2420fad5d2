import DocTable.OrderedMap
import DocTable.Path

/-!
# File trees

A file tree is a file with its bytes, or a directory with named entries.  `FileTree.locate` follows
names from the root: each step but the last needs a directory, and two dots lead back to the
directory above.
-/

namespace DocTable

/-- A file, or a directory with everything below it. -/
inductive FileTree where
  | file (contents : List UInt8)
  | directory (entries : List (String × FileTree))
  deriving Inhabited

/-- Why an operation on files is refused. -/
inductive FileFault where
  | notFound
  | alreadyExists
  | notDirectory
  | isDirectory
  | nameTooLong
  deriving DecidableEq, Repr

namespace FileFault

/-- The number of a fault. -/
def number : FileFault → Nat
  | notFound => 2
  | alreadyExists => 17
  | notDirectory => 20
  | isDirectory => 21
  | nameTooLong => 36

/-- The words for a fault. -/
def words : FileFault → String
  | notFound => "No such file or directory"
  | alreadyExists => "File exists"
  | notDirectory => "Not a directory"
  | isDirectory => "Is a directory"
  | nameTooLong => "File name too long"

end FileFault

namespace FileTree

/-- A tree is a directory. -/
def isDirectory : FileTree → Bool
  | file _ => false
  | directory _ => true

/-- The entry of a directory with a name. -/
def child? (name : String) : FileTree → Option FileTree
  | file _ => none
  | directory entries => entries.lookup name

/-- What lies at the end of a list of names. -/
def get? : List String → FileTree → Option FileTree
  | [], tree => some tree
  | name :: names, tree => (tree.child? name).bind (get? names)

/-- The tree with `node` at the end of a list of names; directories on the way are made. -/
def put : FileTree → List String → FileTree → FileTree
  | _, [], node => node
  | tree, name :: names, node =>
    let entries := match tree with
      | file _ => []
      | directory entries => entries
    directory (OrderedMap.alterEntries name
      (fun found => (found.getD (directory [])).put names node) entries)

/-- The longest name of a file, in bytes. -/
def longestName : Nat := 255

/-- The place that names lead to from the place `here`. -/
def locate (tree : FileTree) (here : List String) : List String → Except FileFault (List String)
  | [] => .ok here
  | name :: names =>
    match tree.get? here with
    | some (directory entries) =>
      if name = ".." then tree.locate here.dropLast names
      else if longestName < Text.Utf8.nameSize name then .error .nameTooLong
      else if (entries.lookup name).isSome then tree.locate (here ++ [name]) names
      else .error .notFound
    | _ => .error .notDirectory

end FileTree

end DocTable
