import DocTable.Json.Document
import DocTable.Symbol

/-!
# JSON export

`Export.json` writes the symbols of a snapshot as JSON: namespaces, in them symbols, in them
sections of members, all in their order.
-/

namespace DocTable.Export

open Json (Document)

/-- The array of some texts. -/
def texts (ss : List String) : Document :=
  .array (ss.map .text)

/-- The fields of a tag.  The markers of a parameter are part of its variable. -/
def tagFields : Tag → List (String × String)
  | .param tag => [
      ("class", TagClass.param.word), ("name", "@" ++ tag.name), ("type", tag.type),
      ("variable", tag.signature), ("description", tag.description), ("render", tag.rendered)]
  | .typed tag => [
      ("class", TagClass.typed.word), ("name", "@" ++ tag.name), ("type", tag.type),
      ("description", tag.description), ("render", tag.rendered)]
  | .generic tag => [
      ("class", TagClass.generic.word), ("name", "@" ++ tag.name), ("render", tag.rendered)]

/-- The object of some fields that hold texts. -/
def record (fields : List (String × String)) : Document :=
  .object (fields.map fun (name, s) => (name, .text s))

/-- The object of a map. -/
def mapping {α : Type} (f : α → Document) (m : OrderedMap String α) : Document :=
  .object (m.entries.map fun (name, a) => (name, f a))

/-- The object of a documentation block. -/
def docBlock (block : DocBlock) : Document :=
  .object [
    ("summary", .text block.summary),
    ("description", .text block.description),
    ("tags", mapping (fun tags => .array (tags.map fun tag => record (tagFields tag))) block.tags)]

/-- The object of a parameter. -/
def parameter (p : Parameter) : Document :=
  record [("name", p.name), ("type", p.type), ("default", p.defaultText)]

/-- The object of a member; parameters are left out when there are none. -/
def member (m : Member) : Document :=
  .object ([
    ("name", .text m.name),
    ("modifiers", texts m.modifiers),
    ("type", .text m.type),
    ("value", .text m.defaultText),
    ("docblock", docBlock m.docBlock)]
    ++ if m.parameters.isEmpty then [] else [("params", .array (m.parameters.map parameter))])

/-- The object of a symbol. -/
def symbol (s : Symbol) : Document :=
  .object [
    ("name", .text s.shortName),
    ("fullname", .text s.fullName),
    ("kind", .text s.kind.word),
    ("modifiers", texts s.modifiers),
    ("file", .text s.sourceFile),
    ("extend", .text s.parent),
    ("interfaces", texts s.interfaces),
    ("docblock", docBlock s.docBlock),
    ("constants", mapping member s.constants),
    ("properties", mapping member s.properties),
    ("methods", mapping member s.methods)]

/-- The object of a snapshot. -/
def document (snapshot : Snapshot) : Document :=
  mapping (mapping symbol) snapshot

/-- The JSON text of a snapshot, with a line feed at its end. -/
def json (snapshot : Snapshot) : String :=
  (document snapshot).indented ++ "\n"

end DocTable.Export
