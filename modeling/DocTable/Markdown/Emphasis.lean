import DocTable.Markdown.Node

/-!
# Emphasis

One mark around a text emphasises it, two make it strong, and three do both.  `emphasis? mark` reads
the emphasis that starts at a mark.  Underscores are marks only at the edge of a word.
-/

namespace DocTable.Markdown

open Node

/-- What a form of emphasis makes of the texts between its marks. -/
inductive Emphasised where
  /-- An element around a text. -/
  | whole (tag : Tag) (text : List Node)
  /-- An element that begins with an element around `first`. -/
  | front (tag inner : Tag) (first rest : List Node)
  /-- An element that ends with an element around `last`. -/
  | back (tag inner : Tag) (first last : List Node)

/-- A form of emphasis: what it makes of some nodes and the node before them, and the nodes
after it. -/
abbrev EmphasisForm := Option Node → List Node → Option (Emphasised × List Node)

namespace EmphasisForm

/-- A place that is not right after a word character. -/
def offWord (previous : Option Node) : Bool :=
  !previous.any isWord

/-- Nodes that do not begin with a word character. -/
def endsWord (nodes : List Node) : Bool :=
  !nodes.head?.any isWord

/-- A text of at least one node up to the first place where `p` holds, and the nodes from there. -/
def upTo (p : Option Node → List Node → Bool) : List Node → Option (List Node × List Node)
  | [] => none
  | node :: nodes => (cutWhere p (some node) nodes).map fun (text, rest) => (node :: text, rest)

/-- A text up to the first place that is followed by `n` marks, and the nodes after these. -/
def upToMarks (mark : Char) (n : Nat) (nodes : List Node) :
    Option (List Node × List Node) :=
  (cutWhere (fun _ rest => startWith (List.replicate n mark) rest) none nodes).map
    fun (text, rest) => (text, rest.drop n)

/-- A text of at least one node up to the first place that is followed by `n` marks, and the nodes
after these. -/
def upToMarks₁ (mark : Char) (n : Nat) (nodes : List Node) :
    Option (List Node × List Node) :=
  (upTo (fun _ rest => startWith (List.replicate n mark) rest) nodes).map
    fun (text, rest) => (text, rest.drop n)

/-- Three marks, of which the inner one is closed first. -/
def strongAround (mark : Char) : EmphasisForm := fun _ nodes => do
  let nodes ← afterChars [mark, mark, mark] nodes
  let (first, nodes) ← upToMarks₁ mark 1 nodes
  let (rest, nodes) ← upToMarks mark 2 nodes
  pure (.front .strong .emphasis first rest, nodes)

/-- Three marks, of which the inner two are closed first. -/
def emphasisAround (mark : Char) : EmphasisForm := fun _ nodes => do
  let nodes ← afterChars [mark, mark, mark] nodes
  let (first, nodes) ← upToMarks₁ mark 2 nodes
  let (rest, nodes) ← upToMarks mark 1 nodes
  pure (.front .emphasis .strong first rest, nodes)

/-- Nodes that begin with just one mark. -/
def startWithOne (mark : Char) (nodes : List Node) : Bool :=
  startWith [mark] nodes && !startWith [mark, mark] nodes

/-- Two asterisks, then one, and then three that close both. -/
def closedTogether : EmphasisForm := fun _ nodes => do
  let nodes ← afterChars ['*', '*'] nodes
  let (first, nodes) ← upTo (fun _ rest => startWith ['*'] rest) nodes
  guard (startWithOne '*' nodes && !first.any (isChar '*'))
  let (last, nodes) ← upToMarks₁ '*' 3 (nodes.drop 1)
  pure (.back .strong .emphasis first last, nodes)

/-- Two asterisks on either side. -/
def strong : EmphasisForm := fun _ nodes => do
  let nodes ← afterChars ['*', '*'] nodes
  let (text, nodes) ← upToMarks₁ '*' 2 nodes
  pure (.whole .strong text, nodes)

/-- One asterisk on either side of a text without asterisks. -/
def single : EmphasisForm := fun _ nodes => do
  let nodes ← afterChars ['*'] nodes
  let (text, nodes) ← upToMarks₁ '*' 1 nodes
  guard !text.any (isChar '*')
  pure (.whole .emphasis text, nodes)

/-- Two underscores, then one, and then three that close both; each is at the edge of a word. -/
def closedTogetherAtWord : EmphasisForm := fun previous nodes => do
  guard (offWord previous)
  let nodes ← afterChars ['_', '_'] nodes
  guard !startWith ['_'] nodes
  let (first, nodes) ← upTo (fun before rest => offWord before && startWithOne '_' rest) nodes
  let (last, nodes) ←
    upTo (fun _ rest => startWith ['_', '_', '_'] rest && endsWord (rest.drop 3)) (nodes.drop 1)
  pure (.back .strong .emphasis first last, nodes.drop 3)

/-- A text between underscores, `n` on either side, that are no part of a word. -/
def atWord (tag : Tag) (n : Nat) : EmphasisForm := fun previous nodes => do
  let marks := List.replicate n '_'
  guard (offWord previous)
  let nodes ← afterChars marks nodes
  guard !startWith ['_'] nodes
  let closes (before : Option Node) (rest : List Node) :=
    !before.any (isChar '_') && startWith marks rest && endsWord (rest.drop n)
  let (text, nodes) ← upTo closes nodes
  pure (.whole tag text, nodes.drop n)

/-- Two underscores on either side, at the edges of words. -/
def strongAtWord : EmphasisForm := atWord .strong 2

/-- One underscore on either side, at the edges of words. -/
def singleAtWord : EmphasisForm := atWord .emphasis 1

/-- The forms of emphasis with a mark, in the order in which they are tried. -/
def all (mark : Char) : List EmphasisForm :=
  if mark = '*' then
    [strongAround mark, emphasisAround mark, closedTogether, strong, single]
  else
    [strongAround mark, emphasisAround mark, closedTogetherAtWord, strongAtWord, singleAtWord]

end EmphasisForm

/-! ### Emphasis within emphasis -/

/-- The element of an emphasis, the texts of which go through `inside`. -/
def Emphasised.toNode (inside : List Node → List Node) : Emphasised → Node
  | whole tag text => .element tag [] (inside text)
  | front tag inner first rest => .element tag [] (.element inner [] (inside first) :: inside rest)
  | back tag inner first last => .element tag [] (inside first ++ [.element inner [] (inside last)])

/-- The emphases of the given forms that follow each other at a place, each form at most once and in
their order, and the nodes after them.  The texts of a form may hold only later forms. -/
def emphasisRun (mark : Char) (inside : List EmphasisForm → List Node → List Node) :
    List EmphasisForm → Option Node → List Node → List Node × List Node
  | [], _, nodes => ([], nodes)
  | form :: forms, previous, nodes =>
    match form previous nodes with
    | none => emphasisRun mark inside forms previous nodes
    | some (found, rest) =>
      let (more, rest) := emphasisRun mark inside forms (some (.char mark)) rest
      (found.toNode (inside forms) :: more, rest)

/-- The nodes of a text within an emphasis, with the emphases of the given forms in it as elements.
The first number bounds the length of the text. -/
def emphasise (mark : Char) : Nat → List EmphasisForm → Option Node → List Node → List Node
  | 0, _, _, nodes => nodes
  | _ + 1, _, _, [] => []
  | fuel + 1, forms, previous, node :: nodes =>
    if node.isChar mark then
      match emphasisRun mark (fun forms => emphasise mark fuel forms none) forms previous
        (node :: nodes) with
      | ([], _) => node :: emphasise mark fuel forms (some node) nodes
      | (found, rest) => found ++ emphasise mark fuel forms (some (.char mark)) rest
    else node :: emphasise mark fuel forms (some node) nodes

/-- The emphasis of the first of the given forms that is found at a place, and the nodes
after it. -/
def firstEmphasis (mark : Char) (previous : Option Node) (nodes : List Node) :
    List EmphasisForm → Option (Node × List Node)
  | [] => none
  | form :: forms =>
    match form previous nodes with
    | none => firstEmphasis mark previous nodes forms
    | some (found, rest) =>
      some (found.toNode (emphasise mark nodes.length forms none), rest)

/-- The emphasis that starts at a mark, and the nodes after it. -/
def emphasis? (mark : Char) (previous : Option Node) (nodes : List Node) :
    Option (Node × List Node) :=
  if startWith [mark] nodes then firstEmphasis mark previous nodes (EmphasisForm.all mark)
  else none

end DocTable.Markdown
