import DocTable.Text.Lines
import DocTable.Text.LowerCase

/-!
# Type annotations

The canonical form of a union type: a question mark when it admits null, then its other members,
each once and trimmed, with bars between them.  A member `null` and a question mark before any
member are folded into the one question mark.
-/

namespace DocTable.TypeAnnotation

open Text

/-- What a written member says: whether it admits null, and the member, if there is one. -/
def readMember (part : List Char) : Bool × Option (List Char) :=
  let (marked, name) := match trim part with
    | '?' :: rest => (true, trim rest)
    | name => (false, name)
  if name.isEmpty then (marked, none)
  else if lowerChars name = ['n', 'u', 'l', 'l'] then (true, none)
  else (marked, some name)

/-- The list with a member at its end, unless it has the member already. -/
def addMember (members : List (List Char)) (name : List Char) : List (List Char) :=
  if name ∈ members then members else members ++ [name]

/-- The members that written members name, each at its first place. -/
def distinctMembers (parts : List (List Char)) : List (List Char) :=
  (parts.filterMap fun part => (readMember part).2).foldl addMember []

/-- The canonical form of members that are already trimmed and distinct. -/
def write (nullable : Bool) (members : List (List Char)) : List Char :=
  if members.isEmpty then
    if nullable then ['n', 'u', 'l', 'l'] else []
  else
    (if nullable then ['?'] else []) ++ ['|'].intercalate members

/-- The canonical annotation of written members; `nullable` says that null is admitted in any
case. -/
def ofParts (parts : List (List Char)) (nullable : Bool) : List Char :=
  write (nullable || parts.any fun part => (readMember part).1) (distinctMembers parts)

/-- The canonical annotation of a list of members. -/
def ofMembers (members : List String) (nullable : Bool) : String :=
  String.ofList (ofParts (members.map String.toList) nullable)

/-- The canonical annotation of a union type as it is written. -/
def ofText (type : String) (nullable : Bool) : String :=
  String.ofList (ofParts (splitOnChar '|' type.toList) nullable)

end DocTable.TypeAnnotation
