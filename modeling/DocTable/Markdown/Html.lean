import DocTable.Markdown.Document
import DocTable.Markdown.LineBreaks
import DocTable.Markup.Converter

/-!
# Markdown as HTML

`Markdown.converter` makes a document of a markdown text and writes documents.  The text is escaped
wherever it goes, character references apart, so all elements are those that markdown makes.

Character references of the source text stand in a document as marks, and a block of fenced code as
a piece of HTML.
-/

namespace DocTable.Markdown

open Text

/-! ### Texts -/

/-- A character of the name or of the number of a character reference.  Names are compared without
case, so that four letters count that differ only by case from ASCII letters. -/
def isReferenceChar (c : Char) : Bool :=
  isAsciiDigit c || isAsciiLetter c || c = 'İ' || c = 'ı' || c = 'ſ' || c = 'K'

/-- A text that starts with a character reference, after the ampersand. -/
def startsReference (cs : List Char) : Bool :=
  let ends (p : Char → Bool) (cs : List Char) : Bool :=
    match cs.span p with
    | (_ :: _, ';' :: _) => true
    | _ => false
  match cs with
  | '#' :: x :: digits =>
    ends isAsciiDigit (x :: digits) || ((x = 'x' || x = 'X') && ends Rule.isHexDigit digits)
  | cs => ends isReferenceChar cs

/-- What is written for a character before the text `rest`; an ampersand that starts a character
reference is written as it is.  Quotation marks are escaped only in the values of attributes. -/
def charHtml (inValue : Bool) (c : Char) (rest : Thunk (List Char)) : List Char :=
  if c = '&' then if startsReference rest.get then ['&'] else "&amp;".toList
  else if c = '<' then "&lt;".toList
  else if c = '>' then "&gt;".toList
  else if c = '\x22' && inValue then "&quot;".toList
  else [c]

/-- The character that begins all marks. -/
def markStart : Char := '\x02'

/-- The mark at the start of a text. -/
def markAt? (marks : List (String × String)) (cs : List Char) : Option (String × String) :=
  if cs.head? = some markStart then marks.find? fun mark => mark.1.toList.isPrefixOf cs else none

/-- What is written for a text before the text `rest`.  The number counts characters that are passed
over, since they belong to a mark. -/
def textHtml (marks : List (String × String)) (inValue : Bool) (rest : Thunk (List Char)) :
    Nat → List Char → List Char
  | _, [] => []
  | passed + 1, _ :: cs => textHtml marks inValue rest passed cs
  | 0, c :: cs =>
    match markAt? marks (c :: cs) with
    | some (name, body) =>
      body.toList ++ textHtml marks inValue rest (name.toList.length - 1) cs
    | none => charHtml inValue c (cs ++ rest.get) ++ textHtml marks inValue rest 0 cs

/-- What is written for an attribute.  With `short`, a value that is the name of its attribute is
left out. -/
def attributeHtml (marks : List (String × String)) (short : Bool) (a : String × String) :
    List Char :=
  let value := textHtml marks true (.pure []) 0 a.2.toList
  if short && value = a.1.toList then ' ' :: value
  else ' ' :: a.1.toList ++ "=\"".toList ++ value ++ ['\x22']

/-! ### Writing documents -/

/-- The text at the start of some nodes. -/
def leadingText : List HtmlNode → List Char
  | .text s :: nodes => s.toList ++ leadingText nodes
  | _ => []

mutual

/-- What is written for a node before some others. -/
def nodeHtml (marks : List (String × String)) (rest : List HtmlNode) : HtmlNode → List Char
  | .text s => textHtml marks false (leadingText rest) 0 s.toList
  | .raw html => html.toList
  | .element tag attributes content =>
    elementHtml tag (attributes.map (attributeHtml marks true)) (nodesHtml marks content)

/-- What is written for some nodes. -/
def nodesHtml (marks : List (String × String)) : List HtmlNode → List Char
  | [] => []
  | node :: nodes => nodeHtml marks nodes node ++ nodesHtml marks nodes

end

/-- The HTML of a document. -/
def write (d : HtmlDocument) : String :=
  String.ofList (trim (nodesHtml d.marks d.nodes))

/-! ### Making documents -/

/-- The characters of a sign in a document. -/
def Sign.shown : Sign → List Char
  | escaped c => [c]
  | s => s.spelling

/-- The text of some signs. -/
def shownText (signs : List Sign) : String :=
  String.ofList (signs.flatMap Sign.shown)

/-- The name of an attribute in HTML. -/
def AttributeName.html : AttributeName → String
  | alt => "alt"
  | className => "class"
  | href => "href"
  | id => "id"
  | src => "src"
  | style => "style"
  | title => "title"

/-- An attribute in a document. -/
def Attribute.html (a : Attribute) : String × String :=
  (a.name.html, shownText a.value)

/-- The name of an element in HTML. -/
def Tag.html : Tag → String
  | paragraph => "p"
  | heading level => "h" ++ toString (level.val + 1)
  | rule => "hr"
  | bulletList => "ul"
  | numberedList => "ol"
  | item => "li"
  | quote => "blockquote"
  | indented | fenced => "pre"
  | code => "code"
  | table => "table"
  | tableHead => "thead"
  | tableBody => "tbody"
  | tableRow => "tr"
  | headCell => "th"
  | cell => "td"
  | emphasis => "em"
  | strong => "strong"
  | link | autolink => "a"
  | image => "img"
  | lineBreak => "br"

/-- The attributes of a block of fenced code that are written. -/
def codeAttributes (attributes : List Attribute) : List (List Char) :=
  (attributes.filter fun a => a.name = .id || a.name = .className).map fun a =>
    attributeHtml [] false a.html

/-- The HTML of a block of fenced code. -/
def codeHtml (attributes : List Attribute) (content : List Node) : String :=
  let (inner, text) := match content with
    | .element _ inner text :: _ => (inner, text)
    | text => ([], text)
  let written := textHtml [] false (.pure []) 0 (shownText (Node.textOf text)).toList
  String.ofList <|
    elementHtml "pre" (codeAttributes attributes)
      (elementHtml "code" (codeAttributes inner) written)

namespace Node

mutual

/-- The nodes that a node is in a document. -/
def toHtml : Node → List HtmlNode
  | sign s => [.text (shownText [s])]
  | held _ made => toHtmlAll made
  | element tag attributes content =>
    if tag = .fenced then [.raw (codeHtml attributes content)]
    else [.element tag.html (attributes.map Attribute.html) (toHtmlAll content)]

/-- The nodes that some nodes are in a document. -/
def toHtmlAll : List Node → List HtmlNode
  | [] => []
  | node :: nodes => node.toHtml ++ toHtmlAll nodes

end

mutual

/-- All signs in a node, those in the values of attributes among them. -/
def signs : Node → List Sign
  | sign s => [s]
  | held _ made => signsAll made
  | element _ attributes content => attributes.flatMap Attribute.value ++ signsAll content

/-- All signs in some nodes. -/
def signsAll : List Node → List Sign
  | [] => []
  | node :: nodes => node.signs ++ signsAll nodes

end

end Node

/-- The mark that a character reference is in a document, and what is written for it. -/
def Sign.mark? : Sign → Option (String × String)
  | entity .address _ => some ("\x02amp\x03", "&")
  | entity (.source number) body =>
    some (shownText [.entity (.source number) body], String.ofList ('&' :: body ++ [';']))
  | _ => none

/-- The document of a markdown text. -/
def parse (text : String) : HtmlDocument :=
  if allBlank text.toList then { nodes := [] }
  else
    let nodes := Node.spacedAll false (documentOf text.toList)
    { nodes := Node.toHtmlAll nodes, marks := (Node.signsAll nodes).filterMap Sign.mark? }

/-- The converter of markdown texts. -/
def converter : Converter where
  parse := parse
  write := write

/-- The library that knows the converter for comments alone. -/
def library : MarkdownLibrary :=
  fun _ => converter

end DocTable.Markdown
