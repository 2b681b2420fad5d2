import DocTable.Yaml.Cursor
import DocTable.Json.Token

/-!
# Scalars of YAML

The three ways to write a scalar: plain, quoted, and as an indented block of lines.  Line breaks
inside a plain or quoted scalar are folded: a single one is a space, and of several the first is
left out.
-/

namespace DocTable.Yaml

/-- Line breaks between two parts of a scalar, folded. -/
def fold (first : Char) (more : List Char) : List Char :=
  if first ≠ '\n' then first :: more
  else if more.isEmpty then [' ']
  else more

/-! ### Plain scalars -/

/-- A character that ends a plain scalar between brackets. -/
def isFlowMark (c : Char) : Bool :=
  c == ',' || c == '[' || c == ']' || c == '\x7b' || c == '\x7d'

/-- The part of a plain scalar up to a blank or a mark; `flow` says that it stands between
brackets. -/
def plainRun (flow : Bool) : List Char → List Char
  | [] => []
  | c :: cs =>
    if endsWord (some c) then []
    else if c = ':' ∧ (endsWord cs.head? ∨ (flow ∧ cs.head?.any isFlowMark)) then []
    else if flow ∧ (isFlowMark c ∨ c = '?') then []
    else c :: plainRun flow cs

/-- The line breaks from a place on, with spaces between them, up to a mark of a document. -/
def plainBreaks : Nat → Cursor → Bool × List Char × Cursor
  | 0, cur => (false, [], cur)
  | n + 1, cur =>
    match cur.rest with
    | [] => (false, [], cur)
    | c :: _ =>
      if c = ' ' then plainBreaks n cur.next
      else if isBreak c then
        if cur.next.atDocumentMark then (true, [], cur.next)
        else
          let (stop, breaks, cur) := plainBreaks n cur.next
          (stop, breakValue c :: breaks, cur)
      else (false, [], cur)

/-- What lies between two parts of a plain scalar. -/
structure PlainGap where
  /-- What the gap stands for; empty if the scalar cannot go on. -/
  text : List Char
  cursor : Cursor
  /-- The gap holds a line break. -/
  breaksLine : Bool

/-- The gap at a place. -/
def plainGap (cur : Cursor) : PlainGap :=
  let (blanks, after) := cur.takeWhile (· == ' ')
  match after.rest with
  | c :: _ =>
    if isBreak c then
      if after.next.atDocumentMark then ⟨[], after.next, true⟩
      else
        let (stop, breaks, cur) := plainBreaks after.rest.length after.next
        ⟨if stop then [] else fold (breakValue c) breaks, cur, true⟩
    else ⟨blanks, after, false⟩
  | [] => ⟨blanks, after, false⟩

/-- A plain scalar read so far. -/
structure Plain where
  text : List Char
  cursor : Cursor
  /-- The scalar is followed by a line break. -/
  endsLine : Bool

/-- A plain scalar of at most `n` parts, indented by `indent` at least; `gap` stands before it. -/
def plainScalar (flow : Bool) (indent : Int) : Nat → List Char → Cursor → Plain
  | 0, _, cur => ⟨[], cur, false⟩
  | n + 1, gap, cur =>
    let run := if cur.peek 0 = some '#' then [] else plainRun flow cur.rest
    if run.isEmpty then ⟨[], cur, !gap.isEmpty⟩
    else
      let next := plainGap (cur.advance run.length)
      if next.text.isEmpty ∨ next.cursor.peek 0 = some '#'
          ∨ (!flow ∧ (next.cursor.column : Int) < indent) then
        ⟨gap ++ run, next.cursor, next.breaksLine⟩
      else
        let more := plainScalar flow indent n next.text next.cursor
        ⟨gap ++ run ++ more.text, more.cursor,
          if more.text.isEmpty then next.breaksLine else more.endsLine⟩

/-! ### Quoted scalars -/

/-- The character that an escape with one letter stands for. -/
def escaped? (c : Char) : Option Char :=
  match c with
  | '0' => some '\x00'
  | 'a' => some '\x07'
  | 'b' => some '\x08'
  | 't' => some '\t'
  | '\t' => some '\t'
  | 'n' => some '\n'
  | 'v' => some '\x0b'
  | 'f' => some '\x0c'
  | 'r' => some '\r'
  | 'e' => some '\x1b'
  | ' ' => some ' '
  | '\x22' => some '\x22'
  | '\\' => some '\\'
  | '/' => some '/'
  | 'N' => some '\x85'
  | '_' => some '\xa0'
  | 'L' => some '\u2028'
  | 'P' => some '\u2029'
  | _ => none

/-- The number of hexadecimal digits that an escape with a code point has. -/
def escapeWidth? (c : Char) : Option Nat :=
  match c with
  | 'x' => some 2
  | 'u' => some 4
  | 'U' => some 8
  | _ => none

/-- What an escape with a code point stands for, given by its digits. -/
def codePoint? (digits : List Char) : Except Fault (List Char) :=
  match digits.mapM Json.hexDigit? with
  | none => throw .malformed
  | some values =>
    let n := values.foldl (fun n d => n * 16 + d) 0
    if Nat.pow 2 31 ≤ n then throw .wideCodePoint
    else if 0x110000 ≤ n then throw .noCodePoint
    else pure (Text.ofCodePoint n)

/-- The line breaks of a quoted scalar from a place on, with blanks between them. -/
def quotedBreaks : Nat → Cursor → Except Fault (List Char × Cursor)
  | 0, _ => throw .malformed
  | n + 1, cur =>
    if cur.column = 0 ∧ cur.atDocumentMark then throw .malformed
    else
      let cur := cur.skipWhile fun c => c == ' ' || c == '\t'
      match cur.rest with
      | c :: _ =>
        if isBreak c then do
          let (breaks, cur) ← quotedBreaks n cur.next
          pure (breakValue c :: breaks, cur)
        else pure ([], cur)
      | [] => pure ([], cur)

/-- The rest of a quoted scalar from a place on, up to its closing quote. -/
def quotedScalar (double : Bool) : Nat → Cursor → Except Fault (List Char × Cursor)
  | 0, _ => throw .malformed
  | n + 1, cur => do
    let continueWith (text : List Char) (cur : Cursor) : Except Fault (List Char × Cursor) := do
      let (more, cur) ← quotedScalar double n cur
      pure (text ++ more, cur)
    match cur.rest with
    | [] => throw .malformed
    | c :: rest =>
      if c = ' ' ∨ c = '\t' ∨ isBreak c then
        let (blanks, after) := cur.takeWhile fun c => c == ' ' || c == '\t'
        match after.rest with
        | [] => throw .malformed
        | c :: _ =>
          if isBreak c then do
            let (breaks, cur) ← quotedBreaks (after.rest.length + 1) after.next
            continueWith (fold (breakValue c) breaks) cur
          else continueWith blanks after
      else if double then
        if c = '\x22' then pure ([], cur.next)
        else if c = '\\' then
          match rest with
          | [] => throw .malformed
          | e :: rest =>
            match escaped? e, escapeWidth? e with
            | some value, _ => continueWith [value] (cur.advance 2)
            | none, some width =>
              if rest.length < width then throw .malformed
              else do
                let value ← codePoint? (rest.take width)
                continueWith value (cur.advance (2 + width))
            | none, none =>
              if isBreak e then do
                let (breaks, cur) ← quotedBreaks (rest.length + 1) (cur.advance 2)
                continueWith breaks cur
              else throw .malformed
        else continueWith [c] cur.next
      else if c = '\x27' then
        if rest.head? = some '\x27' then continueWith [c] (cur.advance 2) else pure ([], cur.next)
      else continueWith [c] cur.next

/-! ### Block scalars -/

/-- What becomes of the line breaks at the end of a block. -/
inductive Chomping where
  | strip
  | clip
  | keep
  deriving DecidableEq

/-- The header of a block: how it ends, and how much deeper it is indented, if that is said. -/
def blockHeader (cur : Cursor) : Except Fault (Chomping × Option Nat × Cursor) := do
  let chomping? (cur : Cursor) : Option Chomping × Cursor :=
    match cur.peek 0 with
    | some '+' => (some .keep, cur.next)
    | some '-' => (some .strip, cur.next)
    | _ => (none, cur)
  let indent? (cur : Cursor) : Option Nat × Cursor :=
    match cur.peek 0 with
    | some c => if Text.isAsciiDigit c then (some (c.toNat - 48), cur.next) else (none, cur)
    | none => (none, cur)
  let (first, cur) := chomping? cur
  let (indent, cur) := indent? cur
  let (last, cur) := if first.isNone && indent.isSome then chomping? cur else (none, cur)
  if indent = some 0 then throw .malformed
  let blank (c : Option Char) : Bool := c == some ' ' || endsLine c
  if !blank (cur.peek 0) then throw .malformed
  let cur := cur.skipWhile (· == ' ')
  let cur := if cur.peek 0 = some '#' then cur.skipWhile (!isBreak ·) else cur
  if !endsLine (cur.peek 0) then throw .malformed
  pure (((first.or last).getD .clip), indent, cur.next)

/-- The blank lines at the start of a block, and the depth of its deepest indentation. -/
def leadingBreaks : Nat → Cursor → List Char × Nat × Cursor
  | 0, cur => ([], 0, cur)
  | n + 1, cur =>
    match cur.rest with
    | [] => ([], 0, cur)
    | c :: _ =>
      if isBreak c then
        let (breaks, depth, after) := leadingBreaks n cur.next
        (breakValue c :: breaks, depth, after)
      else if c = ' ' then
        let (breaks, depth, after) := leadingBreaks n cur.next
        (breaks, max depth (cur.column + 1), after)
      else ([], 0, cur)

/-- The place after at most as many spaces as lead to a column. -/
def skipIndent (indent : Nat) (cur : Cursor) : Cursor :=
  cur.advance (min (indent - cur.column) (cur.rest.takeWhile (· == ' ')).length)

/-- The blank lines between two lines of a block. -/
def blockBreaks (indent : Nat) : Nat → Cursor → List Char × Cursor
  | 0, cur => ([], cur)
  | n + 1, cur =>
    let cur := skipIndent indent cur
    match cur.rest with
    | c :: _ =>
      if isBreak c then
        let (breaks, after) := blockBreaks indent n cur.next
        (breakValue c :: breaks, after)
      else ([], cur)
    | [] => ([], cur)

/-- The lines of a block from a place on; `breaks` are the blank lines before them. -/
def blockLines (folded : Bool) (chomping : Chomping) (indent : Nat) :
    Nat → List Char → Cursor → List Char × Cursor
  | 0, _, cur => ([], cur)
  | n + 1, breaks, cur =>
    if cur.column ≠ indent ∨ cur.rest.isEmpty then
      (if chomping = .keep then breaks else [], cur)
    else
      let isBlank (c : Option Char) : Bool := c == some ' ' || c == some '\t'
      let startsBlank := isBlank (cur.peek 0)
      let (line, after) := cur.takeWhile (!isBreak ·)
      let lineBreak := (after.peek 0).map breakValue
      let (nextBreaks, next) := blockBreaks indent (after.rest.length + 1) after.next
      if next.column = indent ∧ !next.rest.isEmpty then
        let separator :=
          if folded ∧ lineBreak = some '\n' ∧ !startsBlank ∧ !isBlank (next.peek 0) then
            if nextBreaks.isEmpty then [' '] else []
          else lineBreak.toList
        let (more, final) := blockLines folded chomping indent n nextBreaks next
        (breaks ++ line ++ separator ++ more, final)
      else
        let tail := match chomping with
          | .strip => []
          | .clip => lineBreak.toList
          | .keep => lineBreak.toList ++ nextBreaks
        (breaks ++ line ++ tail, next)

/-- A block scalar whose mark stands before a place, in a collection indented by `parent`. -/
def blockScalar (folded : Bool) (parent : Int) (cur : Cursor) :
    Except Fault (List Char × Cursor) := do
  let (chomping, increment, cur) ← blockHeader cur
  let least := (max (parent + 1) 1).toNat
  let bound := cur.rest.length + 1
  let (breaks, indent, cur) := match increment with
    | some k =>
      let (breaks, after) := blockBreaks (least + k - 1) bound cur
      (breaks, least + k - 1, after)
    | none =>
      let (breaks, depth, after) := leadingBreaks bound cur
      (breaks, max least depth, after)
  pure (blockLines folded chomping indent bound breaks cur)

end DocTable.Yaml
