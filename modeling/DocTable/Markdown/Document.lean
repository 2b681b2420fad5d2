import DocTable.Markdown.Block
import DocTable.Markdown.Fence
import DocTable.Markdown.Inline

/-!
# Documents

`Draft.addBlocks` builds the elements of a document from its blocks, one after the other.  What a
block becomes depends on the elements before it: code goes on with code, items join the list before
them, and indented blocks belong to its last item.  `documentOf` reads a whole text.
-/

namespace DocTable.Markdown

open Node Text

/-- The content of an element that is being built, and the references that are known. -/
structure Draft where
  content : List Node := []
  references : List Reference := []

/-- Where a block stands. -/
inductive Setting where
  | plain
  /-- In an item of a list without blank lines. -/
  | tightItem
  /-- At the start of an item that a blank line precedes. -/
  | looseItem
  /-- In an item, and its indentation has been taken away. -/
  | outdented
  deriving DecidableEq, Repr

namespace Draft

/-- The draft with a node after its content. -/
def push (node : Node) (draft : Draft) : Draft :=
  { draft with content := draft.content ++ [node] }

/-- The draft with an element after its content that `build` builds. -/
def pushBuilt (tag : Tag) (build : Draft → Draft) (draft : Draft) : Draft :=
  let inner := build { references := draft.references }
  { content := draft.content ++ [.element tag [] inner.content], references := inner.references }

/-- The draft with a function applied to its last element: `f` is told its tag and goes on with its
content. -/
def onLast (f : Tag → Draft → Draft) (draft : Draft) : Draft :=
  match lastElement? draft.content with
  | none => draft
  | some last =>
    let inner := f last.tag { draft with content := last.content }
    { inner with content := last.withContent inner.content }

/-- A function applied `depth` elements below, each the last one within the one before. -/
def atDepth (f : Option Tag → Draft → Draft) : Nat → Option Tag → Draft → Draft
  | 0, parent, draft => f parent draft
  | depth + 1, _, draft => draft.onLast fun tag => atDepth f depth (some tag)

/-- The tag of the last element. -/
def lastTag? (draft : Draft) : Option Tag :=
  (lastElement? draft.content).map (·.tag)

/-- A draft whose last element is a list. -/
def endsWithList (draft : Draft) : Bool :=
  draft.lastTag?.any Tag.isList

/-- Breaks and code at the end of the block of code that the draft ends with. -/
def extendCode (cs : List Char) (draft : Draft) : Draft :=
  draft.onLast fun _ draft => draft.onLast fun _ draft =>
    { draft with content := draft.content ++ (ofChars cs).flatMap inCode }

/-- The draft with code after its content; a block of code at its end goes on. -/
def addCode (code : List Char) (draft : Draft) : Draft :=
  let code := trimRight code ++ ['\n']
  if draft.lastTag? = some .indented then draft.extendCode ('\n' :: code)
  else draft.push (.element .indented [] [.element .code [] ((ofChars code).flatMap inCode)])

/-- The draft with a text after its content: in an item of a tight list as it is, else in a
paragraph. -/
def addText (setting : Setting) (cs : List Char) (draft : Draft) : Draft :=
  if allBlank cs then draft
  else if setting = .tightItem then
    let text :=
      if draft.content.isEmpty then trimLeft cs else '\n' :: cs
    { draft with content := draft.content ++ ofChars text }
  else draft.push (.element .paragraph [] (ofChars (trimLeft cs)))

/-- The content of an item with the text at its start in a paragraph. -/
def wrapStart (draft : Draft) : Draft :=
  match splitText draft.content with
  | ([], _) => draft
  | (text, elements) => { draft with content := .element .paragraph [] text :: elements }

/-- The content of an item with the text at its end in a paragraph, if an element precedes it. -/
def wrapEnd (draft : Draft) : Draft :=
  match lastElement? draft.content with
  | some last =>
    if last.after.isEmpty then draft
    else
      { draft with
        content := { last with after := [] }.withContent last.content
          ++ [.element .paragraph [] (last.after.dropWhile isBlank)] }
  | none => draft

/-- How far below the content the element lies to which an indented block belongs, and the level of
indentation that leads there.  Each list on the way is one level, up to `indent`; `level` of them
are passed already. -/
def listDepth (indent : Nat) : Nat → Nat → List Node → Nat × Nat
  | 0, level, _ => (0, level)
  | fuel + 1, level, content =>
    let below (level : Nat) (content : List Node) :=
      let (depth, level) := listDepth indent fuel level content
      (depth + 1, level)
    if indent ≤ level then (0, level)
    else
      match lastElement? content with
      | some last =>
        if last.tag.isList then below (level + 1) last.content
        else if last.tag = .item then below level last.content
        else (0, level)
      | none => (0, level)

/-- How deep a quote may lie in what is around it: a quote is three steps deeper than the blocks
beside it, and an item or the part of a block before its kind begins two steps. -/
def deepestQuote : Nat := 889

/-- The draft with blocks after its content, which is that of an element with the tag `parent` and
lies `depth` steps deep.  The first number bounds the number of steps through the blocks, which is
at most twice that of the characters. -/
def addBlocks : Nat → Nat → Setting → Option Tag → List (List Char) → Draft → Draft
  | 0, _, _, _, _, draft => draft
  | _ + 1, _, _, _, [], draft => draft
  | fuel + 1, depth, setting, parent, block :: blocks, draft =>
    let add := addBlocks fuel (depth + 2)
    let addParts (setting : Setting) (parent : Option Tag) (text : List Char) :=
      addBlocks fuel (depth + 3) setting parent (blocksOf text)
    let addBefore := add setting parent
    let next := addBlocks fuel depth setting parent
    let orNone (cs : List Char) := if cs.isEmpty then [] else [cs]
    let addItems (items : List (List Char)) (draft : Draft) :=
      items.foldl
        (fun draft item =>
          if isIndented item then draft.onLast fun tag => add .tightItem (some tag) [item]
          else draft.pushBuilt .item (add .tightItem (some .item) [item]))
        draft
    let inItem := parent = some .item
    let continuesList := setting != .outdented && (inItem || draft.endsWithList)
    match Block.read continuesList (depth ≤ deepestQuote) block with
    | .blank breaks rest =>
      next (orNone rest ++ blocks)
        (if draft.lastTag? = some .indented then draft.extendCode breaks else draft)
    | .continuation =>
      let indent := indentation block / 4
      let (below, level) :=
        listDepth indent (2 * indent + 2) (if setting = .tightItem then 1 else 0) draft.content
      let inner := outdent level block
      let addInner (parent : Option Tag) := add .outdented parent [inner]
      let addBelow (parent : Option Tag) (draft : Draft) :=
        if parent = some .item then addInner parent draft
        else if draft.lastTag? = some .item then
          draft.onLast fun tag draft => addParts .outdented (some tag) inner draft.wrapStart
        else draft.pushBuilt .item (addInner (some .item))
      next blocks <|
        if inItem then
          if draft.endsWithList then draft.onLast fun tag => addInner (some tag)
          else addInner parent draft
        else atDepth addBelow below parent draft
    | .code text rest => next (orNone rest ++ blocks) (draft.addCode text)
    | .table grid => next blocks (draft.push grid.toNode)
    | .heading before level text after =>
      let after := if setting = .looseItem then outdent 1 after else after
      next (orNone after ++ blocks)
        ((addBefore (orNone before) draft).push (.element (.heading level) [] (ofChars text)))
    | .underlined level text after =>
      next (orNone after ++ blocks) (draft.push (.element (.heading level) [] (ofChars text)))
    | .rule before after =>
      next (orNone after ++ blocks) ((addBefore (orNone before) draft).push (.element .rule [] []))
    | .list tag items =>
      next blocks <|
        if draft.endsWithList then
          draft.onLast fun _ draft =>
            let draft := draft.onLast fun _ item => item.wrapStart.wrapEnd
            let first := items.head?.toList
            addItems (items.drop 1)
              (draft.pushBuilt .item (add .looseItem (some .item) first))
        else if parent.any Tag.isList then addItems items draft
        else draft.pushBuilt tag (addItems items)
    | .quote before text =>
      let draft := addBefore [before] draft
      let addInner := addParts .plain (some .quote) text
      next blocks <|
        if draft.lastTag? = some .quote then draft.onLast fun _ => addInner
        else draft.pushBuilt .quote addInner
    | .definition before reference after =>
      let known := { draft with references := reference :: draft.references }
      next ((if allBlank before then [] else [dropRightWhile (· == '\n') before])
        ++ (if allBlank after then [] else [after.dropWhile (· == '\n')]) ++ blocks) known
    | .paragraph => next blocks (draft.addText setting block)

/-- The draft with a part of a document after its content. -/
def addPart (fuel : Nat) (draft : Draft) : Part → Draft
  | .text cs => draft.addBlocks fuel 0 .plain none (blocksOf cs)
  | .code node => draft.push node

end Draft

/-- The document that a text is. -/
def documentOf (cs : List Char) : List Node :=
  let lines := sourceLines cs
  let fuel := 4 * (joinLines lines).length + 16
  let draft := (Part.ofLines [] lines.length lines).foldl (Draft.addPart fuel) {}
  Inline.ofContent (Rule.all draft.references) fuel draft.content

end DocTable.Markdown
