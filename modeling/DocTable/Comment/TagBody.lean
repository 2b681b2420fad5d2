import DocTable.Comment.TypeExpression
import DocTable.Tag

/-!
# Tag bodies

`Tag.ofBody` reads the body of a tag as its class asks.  A body that cannot be read so is kept as
it is written, in a generic tag.
-/

namespace DocTable

open Text Comment

/-- The variable of a parameter with its markers. -/
structure Signature where
  byReference : Bool
  variadic : Bool
  variableName : List Char
  deriving DecidableEq

namespace Signature

/-- Reads an optional `&`, an optional `...`, and an identifier after a dollar sign. -/
def ofWord? (word : List Char) : Option Signature :=
  let (byReference, word) := match word with
    | '&' :: rest => (true, rest)
    | _ => (false, word)
  let (variadic, word) := match word with
    | '.' :: '.' :: '.' :: rest => (true, rest)
    | _ => (false, word)
  match word with
  | '$' :: c :: rest =>
    if isNameStart c && rest.all isWord then some ⟨byReference, variadic, c :: rest⟩ else none
  | _ => none

/-- The word that the signature is read from. -/
def toWord (signature : Signature) : List Char :=
  (if signature.byReference then ['&'] else [])
    ++ (if signature.variadic then ['.', '.', '.'] else []) ++ '$' :: signature.variableName

end Signature

/-- The parts that are not empty, with spaces between them. -/
def joinParts (parts : List (List Char)) : List Char :=
  [' '].intercalate (parts.filter (!·.isEmpty))

/-- The parameter tag of its parts. -/
def ParamTag.ofParts (name : String) (type : List Char) (signature : Option Signature)
    (description : List Char) : ParamTag where
  name := name
  type := String.ofList type
  variableName := String.ofList ((signature.map Signature.variableName).getD [])
  description := String.ofList description
  rendered := String.ofList
    (joinParts [type, (signature.map Signature.toWord).getD [], description])
  variadic := signature.any Signature.variadic
  byReference := signature.any Signature.byReference

/-- A parameter body: a signature, or a type with or without a signature after it. -/
def ParamTag.ofBody? (name : String) (body : List Char) : Option ParamTag :=
  let (first, rest) := splitType body
  match Signature.ofWord? first with
  | some signature => some (.ofParts name [] (some signature) rest)
  | none =>
    if first.isEmpty || isTypeExpression first then
      let (second, remainder) := splitWord rest
      match Signature.ofWord? second with
      | some signature => some (.ofParts name first (some signature) remainder)
      | none => some (.ofParts name first none rest)
    else
      none

/-- A typed body: a type and a description. -/
def TypedTag.ofBody? (name : String) (body : List Char) : Option TypedTag :=
  let (first, rest) := splitType body
  if isTypeExpression first then
    some {
      name := name
      type := String.ofList first
      description := String.ofList rest
      rendered := String.ofList (joinParts [first, rest]) }
  else
    none

/-- The tag of a name and a trimmed body. -/
def Tag.ofBody (name : String) (body : List Char) : Tag :=
  let kept := Tag.generic ⟨name, String.ofList body⟩
  match TagClass.ofName name with
  | .param => ((ParamTag.ofBody? name body).map Tag.param).getD kept
  | .typed => ((TypedTag.ofBody? name body).map Tag.typed).getD kept
  | .generic => kept

/-- A tag that its class does not allow: its body could not be read. -/
def Tag.isMalformed (tag : Tag) : Bool :=
  tag.tagClass = .generic && TagClass.ofName tag.name ≠ .generic

end DocTable
