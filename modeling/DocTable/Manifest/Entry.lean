import DocTable.Comment.Parse
import DocTable.Log
import DocTable.Manifest.Failure
import DocTable.TypeAnnotation
import DocTable.Value.Printed

/-!
# Entries of a manifest

An entry is a map that describes a symbol, a member or a parameter.  Its fields are read leniently:
a field of an unexpected kind counts as missing, but a name must be a text that is not blank.
-/

namespace DocTable.Manifest

open Text

/-- A map of a manifest. -/
abbrev Entry := List (Value × Value)

namespace Entry

/-- The value of a field that may be missing. -/
def field? (entry : Entry) (name : String) : Option Value :=
  Value.lookup? name entry

/-- The value of a field that is neither missing nor null. -/
def given? (entry : Entry) (name : String) : Option Value :=
  match entry.field? name with
  | some .null => none
  | found => found

/-- The trimmed name of an entry. -/
def name? (entry : Entry) : Option (List Char) :=
  match entry.field? "name" with
  | some (.text s) => if allBlank s.toList then none else some (trim s.toList)
  | _ => none

/-- The plain text of a field that counts as given. -/
def plain? (entry : Entry) (name : String) : Except Unprintable (Option String) :=
  ((entry.field? name).filter Value.isTruthy).mapM Value.plain

/-- The comment of an entry, when it is a text. -/
def comment? (entry : Entry) : Option String :=
  match entry.field? "doc" with
  | some (.text s) => some s
  | _ => none

/-- The words of a field: those of a text, or the items of a list. -/
def wordsOf (entry : Entry) (name : String) : Except Unprintable (List String) :=
  match (entry.field? name).map Value.unfold with
  | some (.text s) => pure ((words s.toList).map String.ofList)
  | some (.list items) => Value.words items
  | _ => pure []

/-- The canonical type of an entry. -/
def type (entry : Entry) : Except Unprintable String := do
  let nullable := (entry.field? "nullable").any Value.isTruthy
  match entry.given? "type" with
  | none => pure <| TypeAnnotation.ofMembers [] nullable
  | some v =>
    match v.unfold with
    | .list members => pure <| TypeAnnotation.ofMembers (← members.mapM Value.plain) nullable
    | _ => pure <| TypeAnnotation.ofText (← v.plain) nullable

/-- A default that is given as it is printed. -/
def defaultToken : Value → Except Unprintable String
  | .null => pure "null"
  | .bool b => pure (if b then "true" else "false")
  | v => v.plain

/-- The printed default of an entry: a token that is given, or else the printed value. -/
def defaultText (entry : Entry) : Except Unprintable String :=
  match entry.field? "default" with
  | some token => defaultToken token
  | none => Value.printed? (entry.field? "value")

end Entry

/-- The list without the `c` at its start. -/
def stripLeading (c : Char) (cs : List Char) : List Char :=
  cs.dropWhile (· = c)

/-- The full name without backslashes at its start. -/
def fullName (s : String) : String :=
  String.ofList (stripLeading '\\' s.toList)

/-- The namespace and the short name of a full name: it is split at its last backslash. -/
def splitFullName (cs : List Char) : List Char × List Char :=
  let short := (cs.reverse.takeWhile (· ≠ '\\')).reverse
  (cs.take (cs.length - short.length - 1), short)

/-- The events for a comment: its tags that cannot be read. -/
def commentEvents (comment : Option String) : List Event :=
  match comment with
  | none => []
  | some raw =>
    ((Comment.tags (Comment.contentLines raw.toList)).filter Tag.isMalformed).map fun tag =>
      .malformedTag tag.name tag.rendered

/-- An entry of the map form of a section: the key is the name unless the attributes give one. -/
def keyedEntry (key : Value) (attributes : Entry) : Entry :=
  if (attributes.field? "name").isSome then attributes else attributes ++ [(.text "name", key)]

/-- An entry of the map form of a section, whose attributes may be missing. -/
def keyedEntryOf (manifest : Path) (owner : String) (part : Section) (entry : Value × Value) :
    Except Failure Entry := do
  match entry.2.unfold with
  | .null => pure (keyedEntry entry.1 [])
  | .map attributes => pure (keyedEntry entry.1 attributes)
  | _ =>
    let key ← entry.1.plain.mapError .unprintable
    throw (.shape manifest (.attributesNoMap owner part key))

/-- An entry of the list form of a section. -/
def listedEntry (manifest : Path) (owner : String) (part : Section) (item : Value) :
    Except Failure Entry :=
  match item.unfold with
  | .map entry => .ok entry
  | _ => .error (.shape manifest (.itemNoMap owner part))

/-- The entries of a section of an entry. -/
def sectionEntries (manifest : Path) (owner : String) (part : Section) (entry : Entry) :
    Except Failure (List Entry) :=
  match (entry.given? part.word).map Value.unfold with
  | none => .ok []
  | some (.map entries) => entries.mapM (keyedEntryOf manifest owner part)
  | some (.list items) => items.mapM (listedEntry manifest owner part)
  | some _ => .error (.shape manifest (.sectionNoEntries owner part))

end DocTable.Manifest
