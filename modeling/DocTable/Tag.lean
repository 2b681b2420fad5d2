import DocTable.Text.Lines
import DocTable.Text.LowerCase

/-!
# Tags

A tag of a structured comment: a parameter with its type and variable, a tag that carries a type,
or a tag that is kept as it is written.  `TagClass.ofName` decides from its name how the body of a
tag is read.  `unionMembers` splits a type expression at its top-level bars.
-/

namespace DocTable

/-- How the body of a tag is read. -/
inductive TagClass where
  | param
  | typed
  | generic
  deriving DecidableEq, Repr

namespace TagClass

/-- The word for a class of tags. -/
def word : TagClass → String
  | .param => "param"
  | .typed => "typed"
  | .generic => "generic"

/-- The class of a tag name, the letter case of which does not matter. -/
def ofName (name : String) : TagClass :=
  let key := Text.lower name
  if key = "param" then .param
  else if key = "var" ∨ key = "return" ∨ key = "throws" then .typed
  else .generic

end TagClass

/-- A parameter: `@param type $variable description`. -/
structure ParamTag where
  name : String
  type : String
  variableName : String
  description : String
  /-- The type, the signature and the description, with spaces between those that are given. -/
  rendered : String
  variadic : Bool := false
  byReference : Bool := false
  deriving DecidableEq, Repr

/-- A typed tag: `@return type description`. -/
structure TypedTag where
  name : String
  type : String
  description : String
  rendered : String
  deriving DecidableEq, Repr

/-- A tag with its body as it is written. -/
structure GenericTag where
  name : String
  rendered : String
  deriving DecidableEq, Repr

/-- A tag of a structured comment. -/
inductive Tag where
  | param (tag : ParamTag)
  | typed (tag : TypedTag)
  | generic (tag : GenericTag)
  deriving DecidableEq, Repr

/-- The bracket depth after a character.  All kinds of brackets count towards one depth, which
never falls below zero. -/
def bracketDepth (depth : Nat) (c : Char) : Nat :=
  if c ∈ ['<', '(', '\x7b', '['] then depth + 1
  else if c ∈ ['>', ')', '\x7d', ']'] then depth - 1
  else depth

/-- The pieces of an expression between its bars at bracket depth zero. -/
def splitBars (depth : Nat) : List Char → List (List Char)
  | [] => [[]]
  | c :: cs =>
    let inner := bracketDepth depth c
    if c = '|' ∧ inner = 0 then [] :: splitBars inner cs
    else Text.extendFirst c (splitBars inner cs)

/-- The members of a union type, empty ones left out. -/
def unionMembers (type : String) : List String :=
  ((splitBars 0 type.toList).filter fun piece => !piece.isEmpty).map String.ofList

/-- The union members of the type of a parameter. -/
def ParamTag.types (tag : ParamTag) : List String := unionMembers tag.type

/-- The variable as it is written in a declaration: `&` for a reference, `...` for a variadic
parameter, `$` and the name. -/
def ParamTag.signature (tag : ParamTag) : String :=
  if tag.variableName = "" then ""
  else (if tag.byReference then "&" else "") ++ (if tag.variadic then "..." else "") ++ "$"
    ++ tag.variableName

/-- The union members of the type of a typed tag. -/
def TypedTag.types (tag : TypedTag) : List String := unionMembers tag.type

namespace Tag

/-- The name of a tag, without the at sign. -/
def name : Tag → String
  | .param tag => tag.name
  | .typed tag => tag.name
  | .generic tag => tag.name

/-- The body of a tag as it is shown. -/
def rendered : Tag → String
  | .param tag => tag.rendered
  | .typed tag => tag.rendered
  | .generic tag => tag.rendered

/-- The class of a tag. -/
def tagClass : Tag → TagClass
  | .param _ => .param
  | .typed _ => .typed
  | .generic _ => .generic

end Tag

end DocTable
