import DocTable.Json.Writer

/-!
# JSON documents

`Json.Document` is a document made of texts, arrays and objects only.  `Document.indented` writes it
with one part a line, two spaces deeper at every level; an array or object without parts stays on
its line.
-/

namespace DocTable.Json

/-- A document without numbers and words. -/
inductive Document where
  | text (s : String)
  | array (items : List Document)
  | object (fields : List (String × Document))
  deriving Inhabited

namespace Document

/-- The line break before a part at a level. -/
def lineBreak (level : Nat) : String :=
  String.ofList ('\n' :: List.replicate (2 * level) ' ')

/-- Parts at a level between brackets that stand one level higher. -/
def enclose (opening closing : String) (level : Nat) (parts : List String) : String :=
  if parts.isEmpty then opening ++ closing
  else
    opening ++ lineBreak (level + 1) ++ ("," ++ lineBreak (level + 1)).intercalate parts
      ++ lineBreak level ++ closing

mutual

/-- A document whose first line stands at a level. -/
def indentedAt (level : Nat) : Document → String
  | text s => string s
  | array items => enclose "[" "]" level (indentedItems (level + 1) items)
  | object fields => enclose "\x7b" "\x7d" level (indentedFields (level + 1) fields)

/-- The items of an array. -/
def indentedItems (level : Nat) : List Document → List String
  | [] => []
  | d :: ds => indentedAt level d :: indentedItems level ds

/-- The fields of an object. -/
def indentedFields (level : Nat) : List (String × Document) → List String
  | [] => []
  | (name, d) :: fs => (string name ++ ": " ++ indentedAt level d) :: indentedFields level fs

end

/-- The text of a document. -/
def indented (d : Document) : String :=
  indentedAt 0 d

mutual

/-- The value that a document stands for. -/
def toValue : Document → Value
  | text s => .text s
  | array items => .list (itemValues items)
  | object fields => .map (fieldValues fields)

/-- The values of the items of an array. -/
def itemValues : List Document → List Value
  | [] => []
  | d :: ds => d.toValue :: itemValues ds

/-- The values of the fields of an object. -/
def fieldValues : List (String × Document) → List (Value × Value)
  | [] => []
  | (name, d) :: fs => (.text name, d.toValue) :: fieldValues fs

end

end Document

end DocTable.Json
