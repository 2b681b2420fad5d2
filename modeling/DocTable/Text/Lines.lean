import DocTable.Text.Blank

/-!
# Lines

`splitLines` cuts a text at its line breaks.  A break ends a line: no empty line follows the last
break, and a carriage return with the line feed after it is one break.  `joinLines` writes lines
with line feeds between them.
-/

namespace DocTable.Text

/-- A character that ends a line. -/
def isLineBreak (c : Char) : Bool :=
  let n := c.toNat
  (0x0A ≤ n && n ≤ 0x0D) || (0x1C ≤ n && n ≤ 0x1E) || n == 0x85 || n == 0x2028 || n == 0x2029

/-- The lists with `c` in front of the first of them. -/
def extendFirst (c : Char) : List (List Char) → List (List Char)
  | [] => [[c]]
  | cs :: rest => (c :: cs) :: rest

/-- The lines of a text, without their breaks. -/
def splitLines : List Char → List (List Char)
  | [] => []
  | '\r' :: '\n' :: cs => [] :: splitLines cs
  | c :: cs =>
    if isLineBreak c then [] :: splitLines cs else extendFirst c (splitLines cs)

/-- The lines with a line feed between neighbours. -/
def joinLines (lines : List (List Char)) : List Char :=
  ['\n'].intercalate lines

/-- The text with every carriage return, alone or before a line feed, made a line feed. -/
def unifyBreaks : List Char → List Char
  | [] => []
  | '\r' :: '\n' :: cs => '\n' :: unifyBreaks cs
  | c :: cs => (if c == '\r' then '\n' else c) :: unifyBreaks cs

/-- The fields of a text between the occurrences of `sep`: one more than there are of these. -/
def splitOnChar (sep : Char) : List Char → List (List Char)
  | [] => [[]]
  | c :: cs =>
    if c = sep then [] :: splitOnChar sep cs else extendFirst c (splitOnChar sep cs)

end DocTable.Text
