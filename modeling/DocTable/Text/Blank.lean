/-!
# Blanks

White space and what is cut along it: `trim` removes the blanks at both ends of a text, `words`
lists its maximal runs of other characters, and `splitWord` takes the first word from the rest.
-/

namespace DocTable.Text

/-- White space of any script: tabs and line breaks, the information separators, the space, the
no-break spaces and the typographic spaces. -/
def isBlank (c : Char) : Bool :=
  let n := c.toNat
  (0x09 ≤ n && n ≤ 0x0D) || (0x1C ≤ n && n ≤ 0x20) || n == 0x85 || n == 0xA0 || n == 0x1680
    || (0x2000 ≤ n && n ≤ 0x200A) || n == 0x2028 || n == 0x2029 || n == 0x202F || n == 0x205F
    || n == 0x3000

/-- A space or a tab. -/
def isSpaceOrTab (c : Char) : Bool :=
  c == ' ' || c == '\t'

/-- The list without the longest run of `p` at its end. -/
def dropRightWhile (p : Char → Bool) (cs : List Char) : List Char :=
  (cs.reverse.dropWhile p).reverse

/-- The list without the runs of `p` at both ends. -/
def trimWhile (p : Char → Bool) (cs : List Char) : List Char :=
  dropRightWhile p (cs.dropWhile p)

/-- The list without the blanks at its start. -/
def trimLeft (cs : List Char) : List Char :=
  cs.dropWhile isBlank

/-- The list without the blanks at its end. -/
def trimRight (cs : List Char) : List Char :=
  dropRightWhile isBlank cs

/-- The list without the blanks at both ends. -/
def trim (cs : List Char) : List Char :=
  trimRight (trimLeft cs)

/-- A list of blanks only. -/
def allBlank (cs : List Char) : Bool :=
  cs.all isBlank

/-- The words of a list, the first of them continued by the characters of `word`. -/
def wordsFrom (word : List Char) : List Char → List (List Char)
  | [] => if word.isEmpty then [] else [word.reverse]
  | c :: cs =>
    if isBlank c then
      if word.isEmpty then wordsFrom [] cs else word.reverse :: wordsFrom [] cs
    else
      wordsFrom (c :: word) cs

/-- The maximal runs of characters that are no blanks. -/
def words (cs : List Char) : List (List Char) :=
  wordsFrom [] cs

/-- The first word and the trimmed text after it. -/
def splitWord (cs : List Char) : List Char × List Char :=
  let rest := trimLeft cs
  (rest.takeWhile (!isBlank ·), trim (rest.dropWhile (!isBlank ·)))

/-- The text `s` without the blanks at both ends. -/
def trimmed (s : String) : String :=
  String.ofList (trim s.toList)

end DocTable.Text
