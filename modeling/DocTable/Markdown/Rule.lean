import DocTable.Markdown.CharacterName
import DocTable.Markdown.Emphasis
import DocTable.Markdown.Link

/-!
# Rules of inline markup

A rule looks at a place in a text and finds a piece of markup there, or none.  `Rule.all` lists the
rules in the order in which they go over a text: what an earlier rule has found is closed to the
later ones.
-/

namespace DocTable.Markdown

open Node Text

/-- What a rule says of a place in a text. -/
inductive Finding where
  /-- There is no markup. -/
  | nothing
  /-- There is no markup, nor within the next `count` nodes. -/
  | noneWithin (count : Nat)
  /-- There is markup that stands for `nodes`; the text goes on with `rest`. -/
  | found (nodes rest : List Node)

/-- The finding for a node, if there is one, and the nodes after it. -/
def Finding.ofOption : Option (Node × List Node) → Finding
  | some (node, rest) => found [node] rest
  | none => nothing

/-- A rule: its finding for the nodes from a place on, given the node before the place. -/
abbrev Rule := Option Node → List Node → Finding

namespace Rule

/-! ### Code and escapes -/

/-- The code between `n` backquotes, or as many fewer as it takes to find the end of the code. -/
def codeSpan? : Nat → List Node → Option (Node × List Node)
  | 0, _ => none
  | n + 1, nodes =>
    let marks := List.replicate (n + 1) '\x60'
    let closes (before : Option Node) (rest : List Node) :=
      !before.any (isChar '\x60') && startWith marks rest && !startWith ('\x60' :: marks) rest
    match nodes.drop (n + 1) with
    | [] => codeSpan? n nodes
    | first :: inner =>
      match cutWhere closes (some first) inner with
      | some (code, rest) =>
        some (.element .code [] ((Node.trim (first :: code)).flatMap inCode), rest.drop (n + 1))
      | none => codeSpan? n nodes

/-- Code between backquotes.  A backslash before the first of them takes its meaning, unless the
backslashes there pair up. -/
def code : Rule := fun previous nodes =>
  if previous.any (isChar '\\') then .nothing
  else
    let (slashes, rest) := nodes.span (isChar '\\')
    if slashes.isEmpty then
      .ofOption (codeSpan? (nodes.takeWhile (isChar '\x60')).length nodes)
    else if slashes.length % 2 = 0 && startWith ['\x60'] rest then
      .found (List.replicate (slashes.length / 2) (.escaped '\\')) rest
    else .nothing

/-- The characters that a backslash takes the meaning of. -/
def escapable : List Char :=
  ['\\', '\x60', '*', '_', '\x7b', '\x7d', '[', ']', '(', ')', '>', '#', '+', '-', '.', '!', '|']

/-- A character after a backslash. -/
def escape : Rule := fun _ nodes =>
  match nodes with
  | .char '\\' :: .char c :: rest =>
    if escapable.contains c then .found [.escaped c] rest else .noneWithin 2
  | .char '\\' :: _ :: _ => .noneWithin 2
  | _ => .nothing

/-! ### Links and images -/

/-- A link to a target. -/
def linkTo (label : List Node) (target : Target) : Node :=
  .element .link
    (⟨.href, target.href⟩ :: target.title.toList.map (⟨.title, ·⟩)) label

/-- An image. -/
def imageOf (label : List Node) (target : Target) : Node :=
  .element .image
    (⟨.alt, openTextOf label⟩ :: ⟨.src, target.href⟩ :: target.title.toList.map (⟨.title, ·⟩)) []

/-- The label that starts at a place, and the nodes after it.  A link starts with a bracket that no
exclamation mark precedes. -/
def linkLabel? (previous : Option Node) (nodes : List Node) : Option (List Node × List Node) :=
  if previous.any (isChar '!') then none else (afterChars ['['] nodes).bind (label? 0)

/-- The label of the image that starts at a place, and the nodes after it. -/
def imageLabel? (_ : Option Node) (nodes : List Node) : Option (List Node × List Node) :=
  (afterChars ['!', '['] nodes).bind (label? 0)

/-- A label and a target in parentheses. -/
def direct (label? : Option Node → List Node → Option (List Node × List Node))
    (make : List Node → Target → Node) : Rule := fun previous nodes =>
  .ofOption do
    let (label, rest) ← label? previous nodes
    let (target, rest) ← target? rest
    pure (make label target, rest)

/-- What stands at the place of a label that names a reference. -/
def named (references : List Reference) (make : List Node → Target → Node)
    (nodes label name rest : List Node) : Finding :=
  match (referenceName? name).bind (Reference.named? references) with
  | some reference =>
    let target := ⟨Sign.ofChars reference.target, reference.title.map Sign.ofChars⟩
    .found [make label target] rest
  | none => .noneWithin (nodes.length - rest.length)

/-- A label and the name of a reference in brackets; without a name the label is the name. -/
def byName (references : List Reference)
    (label? : Option Node → List Node → Option (List Node × List Node))
    (make : List Node → Target → Node) : Rule := fun previous nodes =>
  match label? previous nodes with
  | none => .nothing
  | some (label, rest) =>
    match bracketedName? rest with
    | none => .nothing
    | some (name, rest) =>
      named references make nodes label (if name.isEmpty then label else name) rest

/-- A label that is the name of a reference. -/
def byLabel (references : List Reference)
    (label? : Option Node → List Node → Option (List Node × List Node))
    (make : List Node → Target → Node) : Rule := fun previous nodes =>
  match label? previous nodes with
  | none => .nothing
  | some (label, rest) => named references make nodes label label rest

/-- An address of the web between angle brackets. -/
def webAddress : Rule := fun _ nodes =>
  .ofOption do
    let (address, rest) ← upToChar '>' ['<'] (← afterChars ['<'] nodes)
    let scheme ← plainChars? (address.takeWhile (!·.isChar ':'))
    guard (["http".toList, "https".toList, "ftp".toList, "ftps".toList].contains
      (scheme.map Char.toLower))
    guard (startWith [':', '/', '/'] (address.drop scheme.length))
    pure (.element .autolink [⟨.href, openTextOf address⟩] address, rest)

/-- An address of mail between angle brackets, written in character references. -/
def mailAddress : Rule := fun _ nodes =>
  .ofOption do
    let (address, rest) ← upToChar '>' ['<', ' '] (← afterChars ['<'] nodes)
    let (host, user) := address.reverse.span (!·.isChar '@')
    guard (!host.isEmpty && 1 < user.length && !(user.any (isChar '!')))
    let address := (openTextOf address).flatMap Sign.spelling
    let scheme := "mailto:".toList
    let address := if scheme.isPrefixOf address then address.drop scheme.length else address
    let href := (scheme ++ address).map fun c => Sign.entity .address (numericReference c)
    let text := address.map fun c => .entity .address (characterReference c)
    pure (.element .autolink [⟨.href, href⟩] text, rest)

/-! ### Breaks and references to characters -/

/-- Two spaces before the end of a line, which is a hard break then. -/
def lineBreak : Rule := fun _ nodes =>
  .ofOption ((afterChars [' ', ' ', '\n'] nodes).map fun rest => (.element .lineBreak [] [], rest))

/-- A digit of a hexadecimal number. -/
def isHexDigit (c : Char) : Bool :=
  isAsciiDigit c || ('a' ≤ c && c ≤ 'f') || ('A' ≤ c && c ≤ 'F')

/-- What stands after an ampersand, if it is a name or a number in decimal or hexadecimal digits. -/
def isReferenceBody : List Char → Bool
  | '#' :: 'x' :: digits => !digits.isEmpty && digits.all isHexDigit
  | '#' :: digits => !digits.isEmpty && digits.all isAsciiDigit
  | name => !name.isEmpty && name.all fun c => isAsciiLetter c || isAsciiDigit c

/-- A character reference.  Its number is not known yet. -/
def characterEntity : Rule := fun _ nodes =>
  .ofOption do
    let (body, rest) ← upToChar ';' ['&', ' '] (← afterChars ['&'] nodes)
    let body ← plainChars? body
    guard (isReferenceBody body)
    pure (.entity (.source 0) body, rest)

/-! ### Emphasis -/

/-- Up to three marks of emphasis between blanks, which are no markup. -/
def loneMarks : Rule := fun previous nodes =>
  match nodes with
  | .char c :: _ =>
    let (marks, rest) := nodes.span (isChar c)
    if (c = '*' || c = '_') && marks.length ≤ 3 && previous.all Node.isBlank
        && rest.head?.all Node.isBlank then
      .found marks rest
    else .nothing
  | _ => .nothing

/-- Emphasis with a mark. -/
def emphasis (mark : Char) : Rule := fun previous nodes =>
  .ofOption (emphasis? mark previous nodes)

/-- The rules, in the order in which they go over a text. -/
def all (references : List Reference) : List Rule :=
  [code, escape,
    byName references linkLabel? linkTo, direct linkLabel? linkTo,
    direct imageLabel? imageOf, byName references imageLabel? imageOf,
    byLabel references linkLabel? linkTo, byLabel references imageLabel? imageOf,
    webAddress, mailAddress, lineBreak, characterEntity, loneMarks, emphasis '*', emphasis '_']

end Rule

end DocTable.Markdown
