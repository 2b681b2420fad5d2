import DocTable.Text.Utf8
import DocTable.Yaml.ScalarText

/-!
# YAML tokens

`Yaml.tokens` cuts a text into tokens.  Indentation becomes tokens too: a collection that is written
in indented lines has a token at its start and one at its end.  A key before a colon is only known
as a key when the colon comes, so its token is inserted where the key began.  At a fault the stream
ends with the last token that is settled there.
-/

namespace DocTable.Yaml

/-- The tag of a node as it is written: a handle and the rest, or a whole tag. -/
structure TagName where
  handle : Option (List Char)
  rest : List Char
  deriving DecidableEq, Repr

/-- A line before a document that says how to read it. -/
inductive Directive where
  | version (major : Nat)
  /-- A handle that abbreviates the start of tags. -/
  | handle (name tagStart : List Char)
  | other
  deriving DecidableEq, Repr

/-- A token of YAML. -/
inductive Token where
  | directive (content : Directive)
  | documentStart
  | documentEnd
  | blockSequence
  | blockMapping
  | blockEnd
  | openSequence
  | closeSequence
  | openMapping
  | closeMapping
  | entry
  | comma
  | key
  | value
  | alias (name : List Char)
  | anchor (name : List Char)
  | tag (name : TagName)
  | scalar (text : List Char) (plain : Bool)
  deriving DecidableEq, Repr

/-- A token that may turn out to be a key. -/
structure PendingKey where
  /-- The number of tokens before it. -/
  position : Nat
  /-- It starts a line of a mapping, so it has to be a key. -/
  required : Bool
  index : Nat
  line : Nat
  column : Nat

/-- What is known at a place between two tokens. -/
structure Lexer where
  cursor : Cursor
  tokens : Array Token := #[]
  /-- The number of brackets that are open. -/
  depth : Nat := 0
  /-- The column of the innermost indented collection. -/
  indent : Int := -1
  /-- The columns of the collections around it. -/
  outer : List Int := []
  /-- A key may start here. -/
  keyAllowed : Bool := true
  /-- The possible keys, by the number of brackets around them. -/
  pending : List (Nat × PendingKey) := []

namespace Lexer

/-- One step of the lexer, with a value. -/
abbrev Step := StateT Lexer (Except Fault)

/-- Adds a token. -/
def push (t : Token) : Step Unit :=
  modify fun lx => { lx with tokens := lx.tokens.push t }

/-- Goes on by `n` characters. -/
def advance (n : Nat) : Step Unit :=
  modify fun lx => { lx with cursor := lx.cursor.advance n }

/-- Says whether a key may start at the next token. -/
def allowKey (allowed : Bool) : Step Unit :=
  modify fun lx => { lx with keyAllowed := allowed }

/-- Drops the possible key at the current depth. -/
def dropKey : Step Unit := do
  let lx ← get
  match lx.pending.lookup lx.depth with
  | some key =>
    if key.required then throw .malformed
    set { lx with pending := lx.pending.filter (·.1 != lx.depth) }
  | none => pure ()

/-- Notes that the next token may be a key. -/
def saveKey : Step Unit := do
  let lx ← get
  if lx.keyAllowed then
    dropKey
    modify fun lx =>
      let cur := lx.cursor
      let required := lx.depth = 0 && lx.indent = cur.column
      let key := ⟨lx.tokens.size, required, cur.index, cur.line, cur.column⟩
      { lx with pending := (lx.depth, key) :: lx.pending }

/-- The current place is too far from a possible key: a key stands on one line and has at most 1024
characters. -/
def isStale (lx : Lexer) (key : PendingKey) : Bool :=
  key.line != lx.cursor.line || 1024 < lx.cursor.index - key.index

/-- Drops the possible keys that the current place is too far from. -/
def dropStaleKeys : Step Unit := do
  let lx ← get
  if lx.pending.any fun (_, key) => lx.isStale key && key.required then throw .malformed
  set { lx with pending := lx.pending.filter fun (_, key) => !lx.isStale key }

/-- The tokens at the end of the collections that are indented deeper than a column. -/
def closeIndents (column : Int) : List Int → Int → Array Token → Array Token × Int × List Int
  | [], indent, ts => (ts, indent, [])
  | outer :: rest, indent, ts =>
    if column < indent then closeIndents column rest outer (ts.push .blockEnd)
    else (ts, indent, outer :: rest)

/-- Ends the collections that are indented deeper than a column, unless brackets are open. -/
def unwind (column : Int) : Step Unit :=
  modify fun lx =>
    if lx.depth ≠ 0 then lx
    else
      let (tokens, indent, outer) := closeIndents column lx.outer lx.indent lx.tokens
      { lx with tokens, indent, outer }

/-- The tokens with another one at a position. -/
def insertToken (position : Nat) (t : Token) (ts : Array Token) : Array Token :=
  ts.extract 0 position ++ #[t] ++ ts.extract position ts.size

/-- Starts a collection at a column, if it is deeper than the current one; its token is inserted at
a position. -/
def openIndent (column : Nat) (position : Nat) (t : Token) : Step Unit :=
  modify fun lx =>
    if lx.indent < (column : Int) then
      { lx with
        tokens := insertToken position t lx.tokens
        indent := column
        outer := lx.indent :: lx.outer }
    else lx

/-- Skips blanks, comments and line breaks; a key may start on a new line. -/
def skipBlanks : Nat → Step Unit
  | 0 => pure ()
  | n + 1 => do
    let lx ← get
    let cur := lx.cursor.skipWhile (· == ' ')
    let cur := if cur.peek 0 = some '#' then cur.skipWhile (!isBreak ·) else cur
    match cur.rest with
    | c :: _ =>
      if isBreak c then
        set { lx with cursor := cur.next, keyAllowed := lx.keyAllowed || lx.depth = 0 }
        skipBlanks n
      else set { lx with cursor := cur }
    | [] => set { lx with cursor := cur }

/-- Ends everything that is open before a document mark, a directive or the end of the text. -/
def endDocument : Step Unit := do
  unwind (-1)
  dropKey
  allowKey false

/-- A character of the name of an anchor. -/
def isAnchorChar (c : Char) : Bool :=
  Text.isAsciiLetter c || Text.isAsciiDigit c || c == '-' || c == '_'

/-- The name after the mark of an anchor or an alias. -/
def anchorName : Step (List Char) := do
  advance 1
  let (name, cur) := (← get).cursor.takeWhile isAnchorChar
  if name.isEmpty then throw .malformed
  let follows := match cur.peek 0 with
    | some c => endsWord (some c) || c ∈ "?:,]\x7d%@\x60".toList
    | none => true
  if !follows then throw .malformed
  modify fun lx => { lx with cursor := cur }
  pure name

/-- A character of a tag. -/
def isTagChar (c : Char) : Bool :=
  Text.isAsciiLetter c || Text.isAsciiDigit c || c ∈ "-;/?:@&=+$,_.!~*'()[]%".toList

/-- The bytes that are written by percent signs at the start of a text, and the text after them. -/
def percentBytes : List Char → Except Fault (List UInt8 × List Char)
  | '%' :: a :: b :: rest =>
    match Json.hexDigit? a, Json.hexDigit? b with
    | some a, some b => do
      let (bytes, rest) ← percentBytes rest
      pure (UInt8.ofNat (a * 16 + b) :: bytes, rest)
    | _, _ => throw .malformed
  | '%' :: _ => throw .malformed
  | cs => pure ([], cs)

/-- The part of a tag at the start of a text of at most `n` characters, and the text after it. -/
def tagPart : Nat → List Char → Except Fault (List Char × List Char)
  | n + 1, c :: cs =>
    if c = '%' then do
      let (bytes, rest) ← percentBytes (c :: cs)
      match Text.Utf8.decode bytes with
      | .ok part =>
        let (more, rest) ← tagPart n rest
        pure (part ++ more, rest)
      | .error _ => throw .malformed
    else if isTagChar c then do
      let (more, rest) ← tagPart n cs
      pure (c :: more, rest)
    else pure ([], c :: cs)
  | _, cs => pure ([], cs)

/-- The part of a tag at a place, which must not be empty, and the place after it. -/
def tagPartAt (cur : Cursor) : Except Fault (List Char × Cursor) := do
  let (part, rest) ← tagPart cur.rest.length cur.rest
  if part.isEmpty then throw .malformed
  pure (part, cur.advance (cur.rest.length - rest.length))

/-- The handle at a place: an exclamation mark, or a name between two of them. -/
def handleAt (cur : Cursor) : Except Fault (List Char × Cursor) := do
  if cur.peek 0 ≠ some '!' then throw .malformed
  let (name, after) := cur.next.takeWhile isAnchorChar
  if after.peek 0 = some '!' then pure ('!' :: name ++ ['!'], after.next)
  else if name.isEmpty && after.peek 0 = some ' ' then pure (['!'], after)
  else throw .malformed

/-- A space or the end of the line. -/
def endsTag (c : Option Char) : Bool :=
  c == some ' ' || endsLine c

/-- The tag at the current place. -/
def tagName : Step TagName := do
  let lx ← get
  let cur := lx.cursor.next
  let (name, after) ←
    if cur.peek 0 = some '<' then do
      let (part, after) ← tagPartAt cur.next
      if after.peek 0 ≠ some '>' then throw .malformed
      pure (⟨none, part⟩, after.next)
    else if endsWord (cur.peek 0) then pure (⟨none, ['!']⟩, cur)
    else do
      let word := cur.rest.takeWhile fun c => c != ' ' && !isBreak c
      let (handle, start) ← if word.contains '!' then handleAt lx.cursor else pure (['!'], cur)
      let (part, after) ← tagPartAt start
      pure (⟨some handle, part⟩, after)
  if !endsTag (after.peek 0) then throw .malformed
  set { lx with cursor := after }
  pure name

/-- A mark that opens or closes a list or a map between brackets. -/
def bracket (t : Token) (opens : Bool) : Step Unit := do
  if opens then
    saveKey
    modify fun lx => { lx with depth := lx.depth + 1 }
  else
    dropKey
    if (← get).depth = 0 then throw .malformed
    modify fun lx => { lx with depth := lx.depth - 1 }
  allowKey opens
  advance 1
  push t

/-- The mark of an entry or of a key that starts a line of a collection. -/
def lineMark (collection t : Token) (keyAfter : Bool) : Step Unit := do
  let lx ← get
  if lx.depth = 0 then
    if !lx.keyAllowed then throw .malformed
    openIndent lx.cursor.column lx.tokens.size collection
  allowKey keyAfter
  dropKey
  advance 1
  push t

/-- The colon before a value; what stands before it turns out to be a key. -/
def valueMark : Step Unit := do
  let lx ← get
  match lx.pending.lookup lx.depth with
  | some key =>
    set { lx with
      pending := lx.pending.filter (·.1 != lx.depth)
      tokens := insertToken key.position .key lx.tokens }
    if lx.depth = 0 then openIndent key.column key.position .blockMapping
    allowKey false
  | none =>
    if lx.depth = 0 then
      if !lx.keyAllowed then throw .malformed
      openIndent lx.cursor.column lx.tokens.size .blockMapping
    allowKey (lx.depth = 0)
    dropKey
  advance 1
  push .value

/-- A scalar that may be a key. -/
def inlineScalar (read : Lexer → Except Fault (Token × Cursor × Bool)) : Step Unit := do
  saveKey
  let (t, cursor, keyAllowed) ← read (← get)
  modify fun lx => { lx with cursor, keyAllowed }
  push t

/-- A quoted scalar. -/
def quoted (double : Bool) : Step Unit :=
  inlineScalar fun lx => do
    let (text, cur) ← quotedScalar double (lx.cursor.rest.length + 1) lx.cursor.next
    pure (.scalar text false, cur, false)

/-- A plain scalar. -/
def plain : Step Unit :=
  inlineScalar fun lx =>
    let read := plainScalar (lx.depth ≠ 0) (lx.indent + 1) (lx.cursor.rest.length + 1) [] lx.cursor
    pure (.scalar read.text true, read.cursor, read.endsLine)

/-- A block scalar. -/
def block (folded : Bool) : Step Unit := do
  allowKey true
  dropKey
  let lx ← get
  let (text, cursor) ← blockScalar folded lx.indent lx.cursor.next
  set { lx with cursor }
  push (.scalar text false)

/-- A plain scalar may start with a character before another one. -/
def startsPlain (inBrackets : Bool) (c : Char) (following : Option Char) : Bool :=
  if endsWord (some c) then false
  else if c ∈ "-?:,[]\x7b\x7d#&*!|>'\"%@\x60".toList then
    !endsWord following && (c == '-' || (!inBrackets && (c == '?' || c == ':')))
  else true

/-- The content of a version directive at a place, and the place after it. -/
def versionAt (cur : Cursor) : Except Fault (Directive × Cursor) := do
  let (major, point) := (cur.skipWhile (· == ' ')).takeWhile Text.isAsciiDigit
  let (minor, after) := point.next.takeWhile Text.isAsciiDigit
  if major.isEmpty || point.peek 0 ≠ some '.' || minor.isEmpty || !endsTag (after.peek 0) then
    throw .malformed
  pure (.version (Json.digitsValue major), after)

/-- The content of a tag directive at a place, and the place after it. -/
def tagDirectiveAt (cur : Cursor) : Except Fault (Directive × Cursor) := do
  let (handle, after) ← handleAt (cur.skipWhile (· == ' '))
  if after.peek 0 ≠ some ' ' then throw .malformed
  let (tagStart, after) ← tagPartAt (after.skipWhile (· == ' '))
  if !endsTag (after.peek 0) then throw .malformed
  pure (.handle handle tagStart, after)

/-- The directive after the percent sign at a place, and the end of its line. -/
def directiveAt (cur : Cursor) : Except Fault (Directive × Cursor) := do
  let (name, after) := cur.takeWhile isAnchorChar
  if name.isEmpty || !endsTag (after.peek 0) then throw .malformed
  let (content, after) ←
    if name = "YAML".toList then versionAt after
    else if name = "TAG".toList then tagDirectiveAt after
    else pure (.other, after.skipWhile (!isBreak ·))
  let after := after.skipWhile (· == ' ')
  let after := if after.peek 0 = some '#' then after.skipWhile (!isBreak ·) else after
  if !endsLine (after.peek 0) then throw .malformed
  pure (content, after)

/-- Adds the next token, and says whether there was one. -/
def token : Step Bool := do
  skipBlanks ((← get).cursor.rest.length + 1)
  dropStaleKeys
  unwind (← get).cursor.column
  let lx ← get
  let cur := lx.cursor
  let inBrackets := lx.depth ≠ 0
  match cur.rest with
  | [] =>
    endDocument
    return false
  | c :: rest =>
    if cur.column = 0 ∧ c = '%' then
      endDocument
      let (content, cur) ← directiveAt cur.next
      modify fun lx => { lx with cursor := cur }
      push (.directive content)
    else if cur.column = 0 ∧ (c = '-' ∨ c = '.') ∧ cur.atDocumentMark then
      endDocument
      advance 3
      push (if c = '-' then .documentStart else .documentEnd)
    else if c = '[' then bracket .openSequence true
    else if c = '\x7b' then bracket .openMapping true
    else if c = ']' then bracket .closeSequence false
    else if c = '\x7d' then bracket .closeMapping false
    else if c = ',' then
      allowKey true
      dropKey
      advance 1
      push .comma
    else if c = '-' ∧ endsWord rest.head? then lineMark .blockSequence .entry true
    else if c = '?' ∧ (inBrackets ∨ endsWord rest.head?) then
      lineMark .blockMapping .key (!inBrackets)
    else if c = ':' ∧ (inBrackets ∨ endsWord rest.head?) then valueMark
    else if c = '*' then
      saveKey
      allowKey false
      push (.alias (← anchorName))
    else if c = '&' then
      saveKey
      allowKey false
      push (.anchor (← anchorName))
    else if c = '!' then
      saveKey
      allowKey false
      push (.tag (← tagName))
    else if (c = '|' ∨ c = '>') ∧ !inBrackets then block (c = '>')
    else if c = '\x27' then quoted false
    else if c = '\x22' then quoted true
    else if startsPlain inBrackets c rest.head? then plain
    else throw .malformed
    return true

/-- The number of tokens that are settled: before the first one that may turn out to be a key. -/
def settled (lx : Lexer) : Nat :=
  (lx.pending.filter fun (_, key) => !lx.isStale key).foldl
    (fun n (_, key) => min n key.position) lx.tokens.size

end Lexer

/-- The tokens of a text up to its end or to the first fault. -/
structure TokenStream where
  tokens : List Token
  fault : Option Fault := none

/-- The tokens up to the end of a text that has at most `n` more of them. -/
def Lexer.run : Nat → Lexer → TokenStream
  | 0, lx => ⟨lx.tokens.toList, none⟩
  | n + 1, lx =>
    match Lexer.token.run lx with
    | .ok (true, next) => next.run n
    | .ok (false, next) => ⟨next.tokens.toList, none⟩
    | .error fault => ⟨lx.tokens.toList.take lx.settled, some fault⟩

/-- A character that may stand in a YAML text. -/
def isTextChar (c : Char) : Bool :=
  let n := c.toNat
  n == 0x09 || n == 0x0A || n == 0x0D || (0x20 ≤ n && n ≤ 0x7E) || n == 0x85
    || (0xA0 ≤ n && n ≤ 0xFFFD) || 0x10000 ≤ n

/-- The tokens of a text; a byte order mark at its start is passed over. -/
def tokens (text : List Char) : TokenStream :=
  if !text.all isTextChar then ⟨[], some .malformed⟩
  else
    let cursor : Cursor := ⟨text, 0, 0, 0⟩
    let cursor := if text.head? = some '\uFEFF' then cursor.next else cursor
    Lexer.run (text.length + 1) { cursor }

end DocTable.Yaml
