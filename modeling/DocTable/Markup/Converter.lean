import DocTable.Link.Target

/-!
# Converters

Markdown is turned into HTML by a converter: it makes a document of a text, and it writes documents.
`Converter.render` lets it do both.  In between it takes away the targets of links and images that
`Link.isSafeUrl` does not admit.

Converters are made by a library, which is given.  The one for comments is set up so that raw HTML
in comments is shown as text, never passed through (`commentSetup`).
-/

namespace DocTable

/-- A node of a document. -/
inductive HtmlNode where
  | text (s : String)
  /-- HTML that is written as it is. -/
  | raw (html : String)
  | element (tag : String) (attributes : List (String × String)) (content : List HtmlNode)

/-- A document. -/
structure HtmlDocument where
  nodes : List HtmlNode
  /-- The marks that stand in texts and in the values of attributes for something that is written in
  their places. -/
  marks : List (String × String) := []

/-- A converter of Markdown. -/
structure Converter where
  /-- The document of a text. -/
  parse : String → HtmlDocument
  /-- The HTML of a document. -/
  write : HtmlDocument → String

/-- How a converter is set up. -/
structure Converter.Setup where
  extensions : List String
  outputFormat : String
  /-- The steps before a text is cut into blocks that are left out. -/
  preprocessorsOut : List String
  /-- The patterns in lines that are left out. -/
  patternsOut : List String

/-- A library of converters. -/
abbrev MarkdownLibrary := Converter.Setup → Converter

/-- The setup of the converter for comments, without the steps for raw HTML. -/
def commentSetup : Converter.Setup where
  extensions := ["fenced_code", "tables"]
  outputFormat := "html"
  preprocessorsOut := ["html_block"]
  patternsOut := ["html"]

/-! ### Elements -/

/-- The names of the elements without an end tag. -/
def voidNames : List String :=
  ["img", "hr", "br"]

/-- What is written for an element whose attributes and content are written. -/
def elementHtml (tag : String) (attributes : List (List Char)) (content : List Char) : List Char :=
  '<' :: tag.toList ++ attributes.flatten ++ '>' :: content
    ++ (if tag ∈ voidNames then [] else '<' :: '/' :: tag.toList ++ ['>'])

/-! ### Safe links -/

/-- The attribute that holds the target of an element. -/
def targetName? (tag : String) : Option String :=
  if tag = "a" then some "href"
  else if tag = "img" then some "src"
  else none

section

variable (isHost : List Char → Bool)

/-- An attribute of an element that is no target, or that has a safe one. -/
def isSafeAttribute (tag : String) (a : String × String) : Bool :=
  targetName? tag ≠ some a.1 || Link.isSafeUrl isHost a.2

mutual

/-- A node without unsafe targets. -/
def HtmlNode.safe : HtmlNode → HtmlNode
  | text s => text s
  | raw html => raw html
  | element tag attributes content =>
    element tag (attributes.filter (isSafeAttribute isHost tag)) (HtmlNode.safeAll content)

/-- Some nodes without unsafe targets. -/
def HtmlNode.safeAll : List HtmlNode → List HtmlNode
  | [] => []
  | node :: nodes => node.safe :: HtmlNode.safeAll nodes

end

/-- The document without unsafe targets. -/
def HtmlDocument.safe (d : HtmlDocument) : HtmlDocument :=
  { d with nodes := HtmlNode.safeAll isHost d.nodes }

/-- The HTML of a text, without the targets of links that are not safe. -/
def Converter.render (converter : Converter) (text : String) : String :=
  if text = "" then "" else converter.write ((converter.parse text).safe isHost)

/-- The HTML of a comment. -/
def MarkdownLibrary.render (library : MarkdownLibrary) (text : String) : String :=
  (library commentSetup).render isHost text

end

end DocTable
