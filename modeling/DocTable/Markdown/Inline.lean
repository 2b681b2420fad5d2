import DocTable.Markdown.Rule

/-!
# Inline markup

`Inline.ofText` turns a text into nodes.  Each rule goes over the whole text before the next one
does; what it finds is held back, and the texts inside it are read with the rules that follow.
`Inline.ofContent` reads the texts of a whole document.  The texts within inline elements are read
once more with all rules, so that markup is found there that only an element around it had hidden.
The pieces of markup are numbered in the order in which they are found, and so are the character
references.
-/

namespace DocTable.Markdown.Inline

open Node

/-- How many there are of what is numbered. -/
structure Counts where
  /-- The pieces of markup that have been found. -/
  pieces : Nat
  /-- The blocks of fenced code, and the character references that have been found. -/
  references : Nat

/-- Reading that numbers pieces of markup and character references. -/
abbrev Numbering := StateM Counts

/-- The number of a new piece of markup. -/
def nextPiece : Numbering Nat :=
  modifyGet fun counts => (counts.pieces, { counts with pieces := counts.pieces + 1 })

/-- The number of a new character reference. -/
def nextReference : Numbering Nat :=
  modifyGet fun counts => (counts.references, { counts with references := counts.references + 1 })

/-! ### Texts -/

/-- The first place where a rule finds markup: the nodes before it, the nodes that the markup stands
for, and the nodes after it.  The number counts nodes that are passed over. -/
def firstFound (rule : Rule) (previous : Option Node) :
    Nat → List Node → Option (List Node × List Node × List Node)
  | _, [] => none
  | skipped + 1, node :: nodes =>
    (firstFound rule (some node) skipped nodes).map fun (before, found) => (node :: before, found)
  | 0, node :: nodes =>
    match rule previous (node :: nodes) with
    | .found made rest => some ([], made, rest)
    | .noneWithin count =>
      (firstFound rule (some node) (count - 1) nodes).map
        fun (before, found) => (node :: before, found)
    | .nothing =>
      (firstFound rule (some node) 0 nodes).map fun (before, found) => (node :: before, found)

/-- A node that stands for markup, the texts of which go through `f` and, after its elements,
through `g`.  A character reference is numbered. -/
def mapNode (f g : List Node → Numbering (List Node)) : Node → Numbering Node
  | .element tag attributes content => do
    let content ← if tag.isAtomic then pure content else mapTexts f g content
    pure (.element tag attributes content)
  | .entity (.source _) body => do
    pure (.entity (.source (← nextReference)) body)
  | node => pure node

/-- A text with the markup held back that the rules find.  The first number bounds the number of
rules and characters. -/
def read : Nat → List Rule → List Node → Numbering (List Node)
  | 0, _, nodes => pure nodes
  | _ + 1, [], nodes => pure nodes
  | fuel + 1, rule :: rules, nodes =>
    match firstFound rule none 0 nodes with
    | none => read fuel rules nodes
    | some (before, made, rest) => do
      let made ← made.mapM (mapNode (read fuel rules) (read fuel (rule :: rules)))
      let number ← nextPiece
      read fuel (rule :: rules) (before ++ .held number made :: rest)

/-- The nodes of a text. -/
def ofText (rules : List Rule) (text : List Node) : Numbering (List Node) := do
  let nodes ← read (rules.length + text.length + 1) rules text
  let counts ← get
  pure (release (counts.pieces + 1) nodes)

/-! ### Documents -/

/-- An element and the text after it. -/
abbrev Section := Node × List Node

/-- The nodes of some sections. -/
def nodesOf (sections : List Section) : List Node :=
  sections.flatMap fun (node, after) => node :: after

/-- An element whose own texts have been read. -/
structure Entered where
  tag : Tag
  attributes : List Attribute
  /-- The text at its start. -/
  start : List Node
  /-- What was found in the text at its start. -/
  found : List Section
  /-- The elements that it had before. -/
  children : List Section
  /-- The text after it. -/
  after : List Node

/-- The text at the start of an element and the text after it are read, and so are the texts of the
elements that are found after it.  The number bounds how often elements are found so. -/
def enter (rules : List Rule) : Nat → Section → Numbering (List Entered)
  | 0, _ => pure []
  | fuel + 1, (.element tag attributes content, after) => do
    let (text, elements) := splitText content
    let start ← if tag.isAtomic then pure text else ofText rules text
    let after ← ofText rules after
    let (start, found) := sections start
    let (after, more) := sections after
    let first := ⟨tag, attributes, start, found, (sections elements).2, after⟩
    let others ← more.mapM (enter rules fuel)
    pure (first :: others.flatten)
  | _ + 1, _ => pure []

/-- A list with `f` applied to its members, to the last of them first. -/
def mapFromLast {α β : Type} (f : α → Numbering β) (xs : List α) : Numbering (List β) := do
  let ys ← xs.reverse.mapM f
  pure ys.reverse

/-- The content of an element with its sections visited. -/
def visitContent (visit : List Section → Numbering (List (List Section))) (content : List Node) :
    Numbering (List Node) := do
  let (start, rest) := sections content
  let groups ← visit rest
  pure (start ++ nodesOf groups.flatten)

/-- A section with its element visited. -/
def visitSection (visit : List Section → Numbering (List (List Section))) :
    Section → Numbering Section
  | (.element tag attributes content, after) => do
    pure (.element tag attributes (← visitContent visit content), after)
  | other => pure other

/-- An element with its content visited.  If it had elements before, what was found at its start is
visited together with these first. -/
def leave (visit : List Section → Numbering (List (List Section))) (e : Entered) :
    Numbering Section := do
  let groups ←
    if e.children.isEmpty then pure (e.found.map ([·])) else visit (e.found ++ e.children)
  let (found, children) := groups.splitAt e.found.length
  let found ← mapFromLast
    (fun
      | [] => pure []
      | first :: others => do pure ((← visitSection visit first) :: others))
    found
  pure (.element e.tag e.attributes (e.start ++ nodesOf (found ++ children).flatten), e.after)

/-- Some sections with the texts in them read, each with the elements after it that were found in
its text.  The texts of all elements are read first, and then their contents are visited, the last
one first.  The number bounds how deep elements lie within elements. -/
def visit (rules : List Rule) : Nat → List Section → Numbering (List (List Section))
  | 0, sections => pure (sections.map ([·]))
  | fuel + 1, sections => do
    let groups ← sections.mapM (enter rules (fuel + 1))
    mapFromLast (mapFromLast (leave (visit rules fuel))) groups

/-- A block of fenced code. -/
def isFenced : Node → Bool
  | .element .fenced _ _ => true
  | _ => false

/-- The content of a document with the inline markup in its texts.  The number bounds how deep
elements lie within elements. -/
def ofContent (rules : List Rule) (fuel : Nat) (content : List Node) : List Node :=
  ((visitContent (visit rules fuel) content).run ⟨0, content.countP isFenced⟩).1

end DocTable.Markdown.Inline
