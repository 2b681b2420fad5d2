import DocTable.Yaml.Fault

/-!
# Places in a YAML text

`Cursor` is a place in a text: the characters from there on, with the line and the column.  A line
ends at a line feed, at a next-line character and at the line and paragraph separators.
-/

namespace DocTable.Yaml

/-- A character that ends a line. -/
def isBreak (c : Char) : Bool :=
  c == '\n' || c == '\x85' || c == '\u2028' || c == '\u2029'

/-- What a line break stands for in a scalar: the separators stand for themselves. -/
def breakValue (c : Char) : Char :=
  if c == '\x85' then '\n' else c

/-- The end of the text or of a line. -/
def endsLine : Option Char → Bool
  | none => true
  | some c => isBreak c

/-- The end of the text or of a line, or a blank. -/
def endsWord : Option Char → Bool
  | none => true
  | some c => c == ' ' || c == '\t' || isBreak c

/-- A place in a text. -/
structure Cursor where
  rest : List Char
  index : Nat := 0
  line : Nat := 0
  column : Nat := 0
  deriving DecidableEq, Repr

namespace Cursor

/-- The character that stands `k` characters further on. -/
def peek (cur : Cursor) (k : Nat) : Option Char :=
  cur.rest[k]?

/-- The place after the next character.  A byte order mark takes no column. -/
def next (cur : Cursor) : Cursor :=
  match cur.rest with
  | [] => cur
  | c :: rest =>
    if isBreak c then ⟨rest, cur.index + 1, cur.line + 1, 0⟩
    else ⟨rest, cur.index + 1, cur.line, if c == '\uFEFF' then cur.column else cur.column + 1⟩

/-- The place after the next `n` characters. -/
def advance (cur : Cursor) : Nat → Cursor
  | 0 => cur
  | n + 1 => cur.next.advance n

/-- The characters from a place that satisfy `p`, and the place after them. -/
def takeWhile (cur : Cursor) (p : Char → Bool) : List Char × Cursor :=
  let cs := cur.rest.takeWhile p
  (cs, cur.advance cs.length)

/-- The place after the characters that satisfy `p`. -/
def skipWhile (cur : Cursor) (p : Char → Bool) : Cursor :=
  (cur.takeWhile p).2

/-- A mark of a document, three of one character at the start of a line, stands here. -/
def atDocumentMark (cur : Cursor) : Bool :=
  match cur.rest with
  | '-' :: '-' :: '-' :: rest => endsWord rest.head?
  | '.' :: '.' :: '.' :: rest => endsWord rest.head?
  | _ => false

end Cursor

end DocTable.Yaml
