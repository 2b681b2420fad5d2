import DocTable.Markdown.Node
import DocTable.Markdown.Reference

/-!
# Links and images

A link is a label in brackets and then its target: in parentheses, possibly with a title, or the
name of a reference in brackets, or nothing, and then the label is the name.  An image is written as
a link after an exclamation mark.
-/

namespace DocTable.Markdown

open Node Text

/-! ### Labels -/

/-- The nodes up to the bracket that closes a label, and the nodes after it.  The number counts the
brackets that are open within the label. -/
def label? (depth : Nat) : List Node → Option (List Node × List Node)
  | [] => none
  | node :: nodes =>
    let longer (depth : Nat) := (label? depth nodes).map fun (label, rest) => (node :: label, rest)
    if node.isChar ']' then
      if depth = 0 then some ([], nodes) else longer (depth - 1)
    else if node.isChar '[' then longer (depth + 1)
    else longer depth

/-! ### Targets in parentheses -/

/-- The target of a link, and its title. -/
structure Target where
  href : List Sign
  title : Option (List Sign)

/-- A text without one pair of quotes around it. -/
def unquoted (signs : List Sign) : List Sign :=
  match signs.head?, signs.getLast? with
  | some first, some last =>
    if first = last && (first = .char '\x22' || first = .char '\x27') then
      (signs.drop 1).dropLast
    else signs
  | _, _ => signs

/-- The target with the given nodes as its address and its title. -/
def Target.ofNodes (href : List Node) (title : Option (List Node)) : Target where
  href := Sign.trim (openTextOf href)
  title := title.map fun title =>
    (unquoted (openTextOf (Node.trim title))).map fun s => if s.isBlank then .char ' ' else s

/-- The nodes up to the first character `c`, none of them a character in `without`, and the nodes
after it. -/
def upToChar (c : Char) (without : List Char) (nodes : List Node) :
    Option (List Node × List Node) :=
  match nodes.span fun node => !node.isChar c && !without.any fun d => node.isChar d with
  | (text, node :: rest) => if node.isChar c then some (text, rest) else none
  | (_, []) => none

/-- The nodes after the blanks at their start. -/
def dropBlanks (nodes : List Node) : List Node :=
  nodes.dropWhile isBlank

/-- A title between quotes, and the nodes after the blanks that follow it. -/
def quotedTitle? (nodes : List Node) : Option (List Node × List Node) :=
  match nodes with
  | .char c :: rest =>
    if c = '\x22' || c = '\x27' then
      (upToChar c [] rest).map fun (title, rest) => (title, dropBlanks rest)
    else none
  | _ => none

/-- A target between angle brackets, after the parenthesis that opens it, and the nodes after the
parenthesis that closes it. -/
def angledTarget? (nodes : List Node) : Option (Target × List Node) := do
  let (href, nodes) ← upToChar '>' ['<'] (← afterChars ['<'] nodes)
  let nodes := dropBlanks nodes
  let (title, nodes) := match quotedTitle? nodes with
    | some (title, nodes) => (some title, nodes)
    | none => (none, nodes)
  pure (.ofNodes href title, ← afterChars [')'] nodes)

/-- A quote in a target: its character, and the numbers of nodes up to where it opens and to where
it was last seen again, each with the quote. -/
structure OpenQuote where
  mark : Char
  start : Nat
  stop : Option Nat := none

/-- What is known of a target that is being read.  From the first quote on, the parentheses are
taken for part of a title. -/
structure TargetScan where
  /-- The number of open parentheses; nothing is left to read when it is zero. -/
  depth : Nat := 1
  /-- The number of open parentheses if there is no title after all. -/
  plainDepth : Nat := 1
  /-- The number of nodes up to the parenthesis that ends the target if there is no title. -/
  plainEnd : Option Nat := none
  quote : Option OpenQuote := none
  /-- A quote of the other kind. -/
  otherQuote : Option OpenQuote := none
  /-- The last node that is no space, if it is a character. -/
  last : Option Char := none

namespace TargetScan

/-- A quote that was seen again, the last time at the end of what has been read. -/
def closed? (last : Option Char) (quote : Option OpenQuote) : Option (Nat × Nat) :=
  match quote with
  | some { mark, start, stop := some stop } => if last = some mark then some (start, stop) else none
  | _ => none

/-- The quote that ends what has been read: the numbers of nodes up to it and its end. -/
def title? (s : TargetScan) : Option (Nat × Nat) :=
  closed? s.last s.quote <|> closed? s.last s.otherQuote

/-- What is known after a character that is preceded by `i` nodes. -/
def afterChar (i : Nat) (c : Char) (s : TargetScan) : TargetScan :=
  if c = '(' then
    if s.quote.isNone then { s with depth := s.depth + 1 }
    else { s with plainDepth := s.plainDepth - 1 }
  else if c = ')' then
    if s.title?.isSome then { s with depth := 0 }
    else if s.quote.isNone then { s with depth := s.depth - 1 }
    else
      { s with
        plainDepth := s.plainDepth - 1
        plainEnd := if s.plainDepth = 1 then some (i + 1) else s.plainEnd }
  else if c = '\x22' || c = '\x27' then
    match s.quote, s.otherQuote with
    | none, _ =>
      { s with depth := 1, plainDepth := s.depth, quote := some { mark := c, start := i + 1 } }
    | some quote, none =>
      if quote.mark = c then { s with quote := some { quote with stop := some (i + 1) } }
      else { s with otherQuote := some { mark := c, start := i + 1 } }
    | some quote, some other =>
      if quote.mark = c then { s with quote := some { quote with stop := some (i + 1) } }
      else { s with otherQuote := some { other with stop := some (i + 1) } }
  else s

/-- What is known after reading nodes up to the end of the target, the first of which is preceded by
`i` nodes, and the number of nodes up to the parenthesis at the end, if it was found. -/
def run (i : Nat) (s : TargetScan) : List Node → TargetScan × Option Nat
  | [] => (s, none)
  | node :: nodes =>
    let s' := match node with
      | .char c => s.afterChar i c
      | _ => s
    if s'.depth = 0 then (s', some (i + 1))
    else
      run (i + 1) (if node.isChar ' ' then s' else
        { s' with last := match node with | .char c => some c | _ => none }) nodes

end TargetScan

/-- A target without angle brackets, after the parenthesis that opens it, and the nodes after the
parenthesis that closes it.  Parentheses nest.  If a title is never closed, its quote is part of the
address; if there is no parenthesis then to end it, the address lacks the last two characters, and
the last one follows it. -/
def plainTarget? (nodes : List Node) : Option (Target × List Node) :=
  match TargetScan.run 0 {} nodes with
  | (s, some stop) =>
    let target := match s.title? with
      | some (start, quoteEnd) =>
        .ofNodes (nodes.take (start - 1)) ((nodes.take (quoteEnd - 1)).drop start)
      | none => .ofNodes (nodes.take (stop - 1)) none
    some (target, nodes.drop stop)
  | (s, none) =>
    if s.plainDepth = 0 then
      match s.plainEnd with
      | some stop => some (.ofNodes (nodes.take (stop - 1)) none, nodes.drop stop)
      | none =>
        let last := (nodes.getLast?.map spelling).bind List.getLast?
        some (.ofNodes (dropSpelled 2 nodes.reverse).reverse none, ofChars last.toList)
    else none

/-- The target in parentheses at the start of some nodes, and the nodes after it. -/
def target? (nodes : List Node) : Option (Target × List Node) := do
  let nodes := dropBlanks (← afterChars ['('] nodes)
  angledTarget? nodes <|> plainTarget? nodes

/-! ### Names of references -/

/-- A text in which every run of blanks is one space. -/
def collapseBlanks : List Char → List Char
  | [] => []
  | c :: cs =>
    if Text.isBlank c then
      if cs.head?.any Text.isBlank then collapseBlanks cs else ' ' :: collapseBlanks cs
    else c :: collapseBlanks cs

/-- The characters of some nodes, none of which is markup. -/
def plainChars? : List Node → Option (List Char)
  | [] => some []
  | .char c :: nodes => (plainChars? nodes).map (c :: ·)
  | _ :: _ => none

/-- The name that some nodes give to a reference; what holds markup names none. -/
def referenceName? (nodes : List Node) : Option (List Char) :=
  (plainChars? nodes).map fun cs => collapseBlanks (lowerChars cs)

/-- The nodes between brackets, and the nodes after these; a blank may come before them. -/
def bracketedName? (nodes : List Node) : Option (List Node × List Node) := do
  let nodes := match nodes with
    | node :: rest => if node.isBlank then rest else nodes
    | [] => []
  upToChar ']' [] (← afterChars ['['] nodes)

end DocTable.Markdown
