import DocTable.Text.Lines
import DocTable.Text.Utf8

/-!
# Paths

A path is a list of names below a root.  Empty names and single dots vanish when a path is read;
two dots stay, and `Path.normalized` takes them as a step back without looking at any file.

Not every text can be handed to a file system.  `Path.resolve` gives the place of a path unless some
name on the way there has a null character, or surrogates that stand for no bytes.
-/

namespace DocTable

/-- What a path starts from. -/
inductive Path.Root where
  /-- The working directory. -/
  | relative
  | absolute
  /-- The root that is written with exactly two slashes. -/
  | doubled
  deriving DecidableEq, Repr

/-- A path to a file or a directory. -/
structure Path where
  root : Path.Root := .relative
  /-- The names, none of which is empty or a single dot. -/
  names : List String := []
  deriving DecidableEq, Repr

namespace Path

instance : Inhabited Path := ⟨{}⟩

/-- The root that a number of leading slashes stands for. -/
def Root.ofSlashes : Nat → Root
  | 0 => relative
  | 2 => doubled
  | _ => absolute

/-- How a root is written. -/
def Root.text : Root → String
  | relative => ""
  | absolute => "/"
  | doubled => "//"

/-- A name that a path keeps. -/
def keepsName (name : List Char) : Bool :=
  name ≠ [] && name ≠ ['.']

/-- Reads a path. -/
def ofText (s : String) : Path where
  root := .ofSlashes (s.toList.takeWhile (· = '/')).length
  names := ((Text.splitOnChar '/' s.toList).filter keepsName).map String.ofList

/-- Writes a path; the working directory is a single dot. -/
def text (p : Path) : String :=
  if p.root = .relative ∧ p.names = [] then "." else p.root.text ++ "/".intercalate p.names

/-- The path does not depend on the working directory. -/
def isAbsolute (p : Path) : Bool :=
  p.root ≠ .relative

/-- The path `q`, taken from `p` on when it is relative. -/
def join (p q : Path) : Path :=
  if q.isAbsolute then q else { p with names := p.names ++ q.names }

/-- The path with one more name. -/
def child (p : Path) (name : String) : Path :=
  { p with names := p.names ++ [name] }

/-- The path without its last name. -/
def parent (p : Path) : Path :=
  { p with names := p.names.dropLast }

/-- The last name; empty when there is none. -/
def name (p : Path) : String :=
  p.names.getLastD ""

/-- The names after a step along each of `names`, of which two dots lead back. -/
def walk (here : List String) : List String → List String
  | [] => here
  | name :: names => walk (if name = ".." then here.dropLast else here ++ [name]) names

/-- The absolute path with the same names, the steps back taken. -/
def normalized (p : Path) : Path where
  root := .absolute
  names := walk [] p.names

/-- The names that lead from `base` to `p`, if `p` is `base` or lies below it. -/
def relativeTo? (p base : Path) : Option Path :=
  if p.root = base.root ∧ base.names.isPrefixOf p.names then
    some { names := p.names.drop base.names.length }
  else none

end Path

/-! ### Faults -/

/-- Why a path names no file. -/
inductive PathFault where
  /-- A null character stands in it. -/
  | null
  /-- It has surrogates that stand for no bytes. -/
  | unencodable (cause : Text.Utf8.Unencodable)
  /-- It begins in the home directory of a user who has none. -/
  | homeless
  deriving DecidableEq, Repr

/-- What is said of a path that names no file. -/
def PathFault.message : PathFault → String
  | null => "embedded null byte"
  | unencodable cause => cause.message
  | homeless => "Could not determine home directory."

namespace Path

/-- What is wrong with a path as it is written. -/
def fault? (p : Path) : Option PathFault :=
  match Text.Utf8.unescapable? p.text.toList with
  | some cause => some (.unencodable cause)
  | none => if p.text.toList.contains '\x00' then some .null else none

/-- The names after a step back from `names`; from the working directory it is taken as it is. -/
def back (root : Root) (names : List String) : List String :=
  if root = .relative ∧ (names = [] ∨ names.getLast? = some "..") then names ++ [".."]
  else names.dropLast

/-- The first fault on the way along some names, each of which is looked up after the names `before`
it.  A step back looks at no file. -/
def wayFault? (root : Root) (before : List String) : List String → Option PathFault
  | [] => none
  | name :: names =>
    if name = ".." then wayFault? root (back root before) names
    else
      match fault? { root, names := before ++ [name] } with
      | some fault => some fault
      | none => wayFault? root (before ++ [name]) names

/-- The absolute path that `p` stands for in the directory `here`. -/
def resolve (p here : Path) : Except PathFault Path :=
  match wayFault? (if p.isAbsolute then .absolute else .relative) [] p.names with
  | some fault => .error fault
  | none => .ok (here.join p).normalized

/-! ### Home directories -/

/-- The path with a home directory for a name with a tilde at its start: what stands behind the
tilde names the user, and nothing the one who asks.  The homes of users are told by `homes`. -/
def expandUser (homes : String → Option String) (p : Path) : Except PathFault Path :=
  match p.root, p.names with
  | .relative, name :: names =>
    match name.toList with
    | '~' :: user =>
      match fault? { names := [String.ofList user] }, homes (String.ofList user) with
      | some fault, _ => .error fault
      | none, none => .error .homeless
      | none, some home =>
        let written := (home.toList.reverse.dropWhile (· = '/')).reverse
        if written.head? = some '~' then .error .homeless
        else
          let place := ofText (if written.isEmpty then "/" else String.ofList written)
          .ok { place with names := place.names ++ names }
    | _ => .ok p
  | _, _ => .ok p

end Path

end DocTable
