import DocTable.Json.Complaint
import DocTable.Json.Reader
import DocTable.Manifest.Entry

/-!
# Reading manifests

A manifest lists symbols in a JSON or YAML file.  `Manifest.read` reads them one after another up to
the first failure: a `Reading` keeps the symbols before it.
-/

namespace DocTable.Manifest

open Text

/-- The endings of the names of manifests. -/
def suffixes : List String := [".symbols.json", ".symbols.yml", ".symbols.yaml"]

/-- The path names a manifest; the letter case of the ending does not matter. -/
def accepts (p : Path) : Bool :=
  suffixes.any fun suffix => suffix.toList.isSuffixOf (lower p.name).toList

/-! ### Members -/

/-- What is printed of values; one that cannot be printed is a failure of the manifest. -/
def orFail {α : Type} (printed : Except Unprintable α) : Except Failure α :=
  printed.mapError .unprintable

/-- The trimmed name of an entry, which must have one. -/
def nameOf (manifest : Path) (missing : Defect) (entry : Entry) : Except Failure (List Char) :=
  match entry.name? with
  | some name => .ok name
  | none => .error (.shape manifest missing)

/-- The documentation of an entry, with the events for its comment. -/
def docBlockOf (entry : Entry) : Logged Failure DocBlock :=
  ⟨commentEvents entry.comment?, .ok (.ofComment? entry.comment?)⟩

/-- The parameter of a method that an entry describes. -/
def readParameter (manifest : Path) (owner method : String) (entry : Entry) :
    Except Failure Parameter := do
  let name ← nameOf manifest (.parameterUnnamed owner method) entry
  let type ← orFail entry.type
  let defaultText ← orFail entry.defaultText
  pure { name := String.ofList (stripLeading '$' name), type, defaultText }

/-- The parameters of a method. -/
def readParameters (manifest : Path) (owner method : String) (entry : Entry) :
    Except Failure (List Parameter) := do
  (← sectionEntries manifest owner .parameters entry).mapM (readParameter manifest owner method)

/-- The member that an entry describes.  Only methods have parameters, and only they have no
default. -/
def readMember (manifest : Path) (owner : String) (kind : MemberKind) (entry : Entry) :
    Logged Failure Member := do
  let name ← nameOf manifest (.memberUnnamed kind owner) entry
  let parameters ←
    if kind = .method then readParameters manifest owner (String.ofList name) entry else pure []
  let modifiers ← orFail (entry.wordsOf "modifiers")
  let type ← orFail entry.type
  let defaultText ← if kind = .method then pure "" else orFail entry.defaultText
  let docBlock ← docBlockOf entry
  pure {
    name := String.ofList (stripLeading '$' name)
    kind, modifiers, type, defaultText, docBlock, parameters }

/-- The members of a section under their names. -/
def readSection (manifest : Path) (owner : String) (part : Section) (kind : MemberKind)
    (entry : Entry) : Logged Failure (OrderedMap String Member) := do
  let entries ← sectionEntries manifest owner part entry
  let members ← Logged.forAll (readMember manifest owner kind) entries
  pure (.ofList (members.map fun m => (m.name, m)))

/-! ### Symbols -/

/-- The namespace that an entry gives: a value that does not count as given is the global one. -/
def namespaceOf? (entry : Entry) : Except Unprintable (Option String) :=
  (entry.field? "namespace").mapM fun v => do
    if v.isTruthy then pure (String.ofList (trimWhile (· = '\\') (← v.plain).toList))
    else pure ""

/-- The kind of a symbol, by default a class. -/
def kindOf (manifest : Path) (owner : String) (entry : Entry) : Except Failure SymbolKind := do
  let word := lower ((← orFail (entry.plain? "kind")).getD SymbolKind.ordinary.word)
  match SymbolKind.ofWord? word with
  | some kind => pure kind
  | none => throw (.shape manifest (.unknownKind owner word))

/-- The file that declares a symbol: the one that the entry names from the directory of the manifest
on, or else the manifest itself. -/
def sourceFileOf (here manifest : Path) (entry : Entry) : Except Failure String := do
  let source := match ← orFail (entry.plain? "file") with
    | some name => manifest.parent.join (.ofText name)
    | none => manifest
  ((source.resolve here).map Path.text).mapError .noPath

/-- The symbol that an entry describes; `index` is its place in the list. -/
def readEntry (here manifest : Path) (index : Nat) (entry : Entry) : Logged Failure Symbol := do
  let name ← nameOf manifest (.symbolUnnamed index) entry
  let full := stripLeading '\\' name
  let owner := String.ofList full
  let (outer, short) := splitFullName full
  let namespaceName ← orFail (namespaceOf? entry)
  let kind ← kindOf manifest owner entry
  let sourceFile ← sourceFileOf here manifest entry
  let constants ← readSection manifest owner .constants .constant entry
  let properties ← readSection manifest owner .properties .property entry
  let methods ← readSection manifest owner .methods .method entry
  let modifiers ← orFail (entry.wordsOf "modifiers")
  let parent ← orFail (entry.plain? "parent")
  let interfaces ← orFail (entry.wordsOf "interfaces")
  let docBlock ← docBlockOf entry
  Logged.report [.symbolRead owner constants.size properties.size methods.size]
  pure {
    shortName := String.ofList short
    fullName := owner
    namespaceName := namespaceName.getD (String.ofList outer)
    sourceFile, kind, modifiers
    parent := fullName (parent.getD "")
    interfaces := interfaces.map fullName
    docBlock, constants, properties, methods }

/-- The symbol that an item of the list of symbols describes. -/
def readItem (here manifest : Path) (index : Nat) (item : Value) : Logged Failure Symbol :=
  match item.unfold with
  | .map entry => readEntry here manifest index entry
  | _ => throw (.shape manifest (.symbolNoMap index))

/-! ### Manifests -/

/-- What a manifest gives. -/
structure Reading where
  /-- The symbols before the first failure. -/
  symbols : List Symbol
  events : List Event
  failure : Option Failure

namespace Reading

/-- A reading that fails before the first symbol. -/
def failing (failure : Failure) : Reading := ⟨[], [], some failure⟩

/-- Reads the items of the list of symbols from the place `index` on. -/
def ofItems (here manifest : Path) (index : Nat) : List Value → Reading
  | [] => ⟨[], [], none⟩
  | item :: items =>
    let first := readItem here manifest index item
    match first.result with
    | .error failure => ⟨[], first.events, some failure⟩
    | .ok s =>
      let rest := ofItems here manifest (index + 1) items
      ⟨s :: rest.symbols, first.events ++ rest.events, rest.failure⟩

/-- All symbols of a manifest, or the failure. -/
def toLogged (reading : Reading) : Logged Failure (List Symbol) :=
  ⟨reading.events, match reading.failure with
    | none => .ok reading.symbols
    | some failure => .error failure⟩

end Reading

/-- The items of the list of symbols: the list stands alone, or in the field `symbols` of a map. -/
def itemsOf? (v : Value) : Option (List Value) :=
  match v.unfold with
  | .list items => some items
  | .map entries =>
    match (Value.lookup? "symbols" entries).map Value.unfold with
    | none => some []
    | some (.list items) => some items
    | some _ => none
  | _ => none

/-- Reads the value of a manifest. -/
def readValue (here manifest : Path) (v : Value) : Reading :=
  match itemsOf? v with
  | some items => .ofItems here manifest 0 items
  | none => .failing (.shape manifest .symbolsNoList)

/-- The value of a manifest: a blank one is an empty map. -/
def load (loadYaml : Yaml.Loader) (disk : Disk) (manifest : Path) : Except Failure Value := do
  if let some fault := manifest.fault? then throw (.noPath fault)
  let bytes ← (disk.read manifest).mapError (.unreadable manifest)
  let text ← (Text.ofBytes bytes).mapError .notText
  if allBlank text.toList then
    pure (.map [])
  else if ".json".toList.isSuffixOf (lower manifest.name).toList then
    match Json.read text with
    | .ok v => pure v
    | .error .malformed => throw (.unparsable manifest (Json.complaint text).message)
    | .error cause => throw (.noJson cause)
  else
    match loadYaml text with
    | .ok v => pure v
    | .error (.malformed message) => throw (.unparsable manifest message)
    | .error (.foreign cause) => throw (.noYaml cause)

/-- Reads a manifest. -/
def read (loadYaml : Yaml.Loader) (disk : Disk) (manifest : Path) : Reading :=
  match load loadYaml disk manifest with
  | .ok v => readValue disk.here manifest v
  | .error failure => .failing failure

end DocTable.Manifest
