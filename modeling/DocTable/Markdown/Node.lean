import DocTable.Text.Blank
import DocTable.Text.Word

/-!
# Markdown trees

A document is a list of nodes.  An element has nodes of its own; the runs of other nodes between its
elements are its texts.  A text is made of signs, which are characters and character references.  A
piece of inline markup that has been recognised is held back under a number, so that no later rule
looks into it, until `Node.release` puts its nodes in its place.
-/

namespace DocTable.Markdown

open Text

/-! ### Signs -/

/-- Where a character reference comes from. -/
inductive Origin where
  /-- It stands for a character of code that has a meaning in HTML. -/
  | code
  /-- It stands for a character of an address of mail. -/
  | address
  /-- It stands in the source text.  Such references and the blocks of fenced code share one
  numbering. -/
  | source (number : Nat)
  deriving DecidableEq, Repr

/-- A sign of a text. -/
inductive Sign where
  | char (c : Char)
  /-- A character that stands for itself and is no markup. -/
  | escaped (c : Char)
  /-- A character reference: what stands between the ampersand and the semicolon. -/
  | entity (origin : Origin) (body : List Char)
  deriving DecidableEq, Repr

namespace Sign

/-- The signs of a text. -/
def ofChars (cs : List Char) : List Sign :=
  cs.map char

/-- A sign that is a blank. -/
def isBlank : Sign → Bool
  | char c => Text.isBlank c
  | _ => false

/-- The signs without the blanks at both ends. -/
def trim (signs : List Sign) : List Sign :=
  ((signs.dropWhile isBlank).reverse.dropWhile isBlank).reverse

/-- The characters that a sign is read as where it is taken apart.  The control characters in them
are in no source text. -/
def spelling : Sign → List Char
  | char c => [c]
  | escaped c => '\x02' :: Nat.toDigits 10 c.toNat ++ ['\x03']
  | entity .code body => '&' :: body ++ [';']
  | entity .address body => '\x02' :: "amp".toList ++ '\x03' :: body ++ [';']
  | entity (.source number) _ =>
    '\x02' :: "wzxhzdk:".toList ++ Nat.toDigits 10 number ++ ['\x03']

end Sign

/-! ### Elements and their attributes -/

/-- The elements of a document. -/
inductive Tag where
  | paragraph
  /-- A heading, with its level counted from zero. -/
  | heading (level : Fin 6)
  | rule
  | bulletList
  | numberedList
  | item
  | quote
  /-- A block of code that is marked by its indentation. -/
  | indented
  /-- A block of code between fences. -/
  | fenced
  | code
  | table
  | tableHead
  | tableBody
  | tableRow
  | headCell
  | cell
  | emphasis
  | strong
  | link
  /-- A link whose text is its target. -/
  | autolink
  | image
  | lineBreak
  deriving DecidableEq, Repr

/-- The attributes of elements. -/
inductive AttributeName where
  | alt
  | className
  | href
  | id
  | src
  | style
  | title
  deriving DecidableEq, Repr

/-- An attribute and its value. -/
structure Attribute where
  name : AttributeName
  value : List Sign
  deriving DecidableEq, Repr

namespace Tag

/-- A list of items. -/
def isList : Tag → Bool
  | bulletList | numberedList => true
  | _ => false

/-- An element that stands on lines of its own. -/
def isBlock : Tag → Bool
  | code | emphasis | strong | link | autolink | image | lineBreak => false
  | _ => true

/-- An element whose text is final. -/
def isAtomic : Tag → Bool
  | code | autolink => true
  | _ => false

end Tag

/-! ### Nodes -/

/-- A node of a document. -/
inductive Node where
  | sign (s : Sign)
  /-- Nodes that are held back, and the number of this piece of markup in its document. -/
  | held (number : Nat) (nodes : List Node)
  | element (tag : Tag) (attributes : List Attribute) (content : List Node)
  deriving Repr

namespace Node

/-- A character. -/
@[match_pattern] abbrev char (c : Char) : Node := sign (.char c)

/-- A character that stands for itself and is no markup. -/
@[match_pattern] abbrev escaped (c : Char) : Node := sign (.escaped c)

/-- A character reference. -/
@[match_pattern] abbrev entity (origin : Origin) (body : List Char) : Node :=
  sign (.entity origin body)

/-- The nodes of a text. -/
def ofChars (cs : List Char) : List Node :=
  cs.map char

/-- A node as it stands in code: a character with a meaning in HTML is written as a character
reference, and one that was escaped before the code was found keeps its spelling. -/
def inCode : Node → List Node
  | char '&' => [entity .code ['a', 'm', 'p']]
  | char '<' => [entity .code ['l', 't']]
  | char '>' => [entity .code ['g', 't']]
  | escaped c => ofChars (Sign.escaped c).spelling
  | node => [node]

/-- A node that is the character `c` and may be markup. -/
def isChar (c : Char) : Node → Bool
  | char d => c = d
  | _ => false

/-- A node that is a blank. -/
def isBlank : Node → Bool
  | char c => Text.isBlank c
  | _ => false

/-- A node that is a word character. -/
def isWord : Node → Bool
  | char c => Text.isWord c
  | _ => false

/-- A node that is an element. -/
def isElement : Node → Bool
  | element .. => true
  | _ => false

/-- The nodes without the blanks at both ends. -/
def trim (nodes : List Node) : List Node :=
  ((nodes.dropWhile isBlank).reverse.dropWhile isBlank).reverse

/-- The text at the start of some nodes, and the nodes from the first element on. -/
def splitText (nodes : List Node) : List Node × List Node :=
  nodes.span (!·.isElement)

/-! ### Texts with held pieces -/

/-- The digits of a number, with zeros in front if there are fewer than four. -/
def fourDigits (n : Nat) : List Char :=
  let digits := Nat.toDigits 10 n
  List.replicate (4 - digits.length) '0' ++ digits

/-- The characters that stand in a text for the held piece with a number.  The control characters
at their ends are in no source text. -/
def heldMark (number : Nat) : List Char :=
  '\x02' :: "klzzwxh:".toList ++ fourDigits number ++ ['\x03']

mutual

/-- The text of a node, without its markup, and with a mark for each held piece. -/
def text : Node → List Sign
  | sign s => [s]
  | held number _ => Sign.ofChars (heldMark number)
  | element _ _ content => textOf content

/-- The text of some nodes, without their markup, and with a mark for each held piece. -/
def textOf : List Node → List Sign
  | [] => []
  | node :: nodes => node.text ++ textOf nodes

end

/-- The text of some nodes in which the held pieces have their own texts.  Pieces that are held
within these keep their marks. -/
def openTextOf (nodes : List Node) : List Sign :=
  nodes.flatMap fun
    | held _ made => textOf made
    | node => node.text

/-- The characters that a node of a text is read as where it is taken apart. -/
def spelling (node : Node) : List Char :=
  node.text.flatMap Sign.spelling

/-- Some nodes, the last of them first, without the last `n` characters of their spelling.  What is
left of a node that is cut is plain text. -/
def dropSpelled (n : Nat) : List Node → List Node
  | [] => []
  | node :: nodes =>
    if n = 0 then node :: nodes
    else if node.spelling.length ≤ n then dropSpelled (n - node.spelling.length) nodes
    else (node.spelling.take (node.spelling.length - n)).reverse.map char ++ nodes

/-- The last element of some nodes, with the nodes on either side of it. -/
structure LastElement where
  before : List Node
  tag : Tag
  attributes : List Attribute
  content : List Node
  after : List Node

/-- The last element of some nodes, if there is one. -/
def lastElement? (nodes : List Node) : Option LastElement :=
  match nodes.reverse.span (!·.isElement) with
  | (after, element tag attributes content :: before) =>
    some ⟨before.reverse, tag, attributes, content, after.reverse⟩
  | _ => none

/-- The nodes with another content of their last element. -/
def LastElement.withContent (last : LastElement) (content : List Node) : List Node :=
  last.before ++ element last.tag last.attributes content :: last.after

/-- The nodes after the characters of `cs`, if they begin with these. -/
def afterChars : List Char → List Node → Option (List Node)
  | [], nodes => some nodes
  | c :: cs, node :: nodes => if node.isChar c then afterChars cs nodes else none
  | _ :: _, [] => none

/-- Nodes that begin with the characters of `cs`. -/
def startWith (cs : List Char) (nodes : List Node) : Bool :=
  (afterChars cs nodes).isSome

/-- The nodes before the first place where `p` holds of the nodes from there on, and these.  The
predicate is also told the node before the place. -/
def cutWhere (p : Option Node → List Node → Bool) (previous : Option Node) :
    List Node → Option (List Node × List Node)
  | [] => none
  | node :: nodes =>
    if p previous (node :: nodes) then some ([], node :: nodes)
    else (cutWhere p (some node) nodes).map fun (before, after) => (node :: before, after)

/-- The text at the start of some nodes, and each element with the text after it. -/
def sections : List Node → List Node × List (Node × List Node)
  | [] => ([], [])
  | node :: nodes =>
    let (start, rest) := sections nodes
    if node.isElement then ([], (node, start) :: rest) else (node :: start, rest)

/-- An element with `f` applied to the text at its start. -/
def mapStart {m : Type → Type} [Monad m] (f : List Node → m (List Node)) : Node → m Node
  | element tag attributes content => do
    let (start, elements) := splitText content
    pure (element tag attributes ((← f start) ++ elements))
  | node => pure node

/-- The content of an element with `f` applied to the text at its start and to the texts at the
starts of its elements, and with `g` applied to the texts after these. -/
def mapTexts {m : Type → Type} [Monad m] (f g : List Node → m (List Node)) (content : List Node) :
    m (List Node) := do
  let (start, rest) := sections content
  let start ← f start
  let rest ← rest.mapM fun (node, after) => do
    let node ← node.mapStart f
    pure (node :: (← g after))
  pure (start ++ rest.flatten)

/-! ### Release -/

/-- A node that holds back an element. -/
def holdsElement : Node → Bool
  | held _ made => made.any isElement
  | _ => false

/-- A character that is no markup any more. -/
def final : Node → Node
  | char c => escaped c
  | node => node

/-- A link whose text is an address, with its held pieces in place.  If there are any, its text may
be read again, except for what follows an element at its end. -/
def releaseAddress (release : List Node → List Node) (attributes : List Attribute)
    (address : List Node) : Node :=
  match address.reverse.span fun | held .. => false | _ => true with
  | (_, []) => element .autolink attributes address
  | (last, piece :: before) =>
    element .link attributes
      (release (piece :: before).reverse
        ++ if piece.holdsElement then last.reverse.map final else last.reverse)

/-- A text with its held pieces in place.  An element among them has the held pieces in place in the
texts that the rules have gone over: at its start, at the starts of its elements and after these.
The first number bounds how deep pieces are held within pieces. -/
def release : Nat → List Node → List Node
  | 0, nodes => nodes
  | fuel + 1, nodes =>
    let inside (text : List Node) : Id (List Node) := release fuel text
    nodes.flatMap fun
      | held _ made => made.map fun
        | element .autolink attributes address => releaseAddress (release fuel) attributes address
        | element tag attributes content => element tag attributes (mapTexts inside inside content)
        | node => node
      | node => [node]

end Node

end DocTable.Markdown
