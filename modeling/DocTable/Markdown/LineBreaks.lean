import DocTable.Markdown.Node

/-!
# Line breaks between elements

In the HTML of a document an element with lines of its own is followed by a line break, and so is a
hard break.  Only blanks are replaced by these line breaks, never other text.
-/

namespace DocTable.Markdown.Node

/-- Nodes that start with an element that stands on lines of its own, blanks apart. -/
def startWithBlock : List Node → Bool
  | [] => false
  | .element tag _ _ :: _ => tag.isBlock
  | node :: nodes => node.isBlank && startWithBlock nodes

/-- Nodes that start with an element or end, blanks apart. -/
def startBlank : List Node → Bool
  | [] => true
  | .element .. :: _ => true
  | node :: nodes => node.isBlank && startBlank nodes

/-- Code without blanks at its end, but with a line break there. -/
def endLine (code : List Node) : List Node :=
  (code.reverse.dropWhile isBlank).reverse ++ [.char '\n']

mutual

/-- A node with line breaks inside. -/
def spaced : Node → Node
  | .element tag attributes content =>
    .element tag attributes <|
      if tag = .indented then
        match content with
        | [.element inner innerAttributes text] => [.element inner innerAttributes (endLine text)]
        | content => content
      else if tag = .fenced then content
      else if tag.isBlock && startWithBlock content then .char '\n' :: spacedAll true content
      else spacedAll false content
  | node => node

/-- Some nodes with line breaks inside and after the elements.  The flag tells that the nodes up to
the next element are blanks that a line break replaces. -/
def spacedAll (replaced : Bool) : List Node → List Node
  | [] => []
  | node :: nodes =>
    match node with
    | .element tag _ _ =>
      if tag.isBlock then
        if startBlank nodes then spaced node :: .char '\n' :: spacedAll true nodes
        else spaced node :: spacedAll false nodes
      else if tag = .lineBreak then spaced node :: .char '\n' :: spacedAll (startBlank nodes) nodes
      else spaced node :: spacedAll false nodes
    | _ => if replaced then spacedAll true nodes else node :: spacedAll false nodes

end

end DocTable.Markdown.Node
