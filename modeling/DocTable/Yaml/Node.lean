import DocTable.Yaml.PlainTag
import DocTable.Yaml.Token

/-!
# YAML nodes

`Yaml.document` reads the tokens of a text as nodes.  A node is a scalar, a sequence or a mapping,
with the tag that says what it stands for.  The nodes of a document are numbered, and a node is
named by its number wherever it stands, so that an alias may even lead to a node around it.
-/

namespace DocTable.Yaml

/-- What a node holds; other nodes are given by their numbers. -/
inductive Content where
  | scalar (text : List Char)
  | sequence (items : List Nat)
  | mapping (entries : List (Nat × Nat))
  deriving DecidableEq, Repr

/-- A node of a document. -/
structure Node where
  tag : Tag
  content : Content
  deriving DecidableEq, Repr

instance : Inhabited Node := ⟨⟨.null, .scalar []⟩⟩

/-- The nodes of a document. -/
structure Document where
  nodes : Array Node
  /-- The number of the outermost node. -/
  root : Nat
  /-- Some node leads to itself. -/
  isCyclic : Bool

/-- The state of reading: the tokens to come and the fault after them, and the nodes so far. -/
structure Reading where
  tokens : List Token
  fault : Option Fault
  nodes : Array Node := #[]
  /-- The numbers of the nodes with anchors. -/
  anchors : List (List Char × Nat) := []
  /-- The numbers of the nodes that are not complete yet. -/
  incomplete : List Nat := []
  isCyclic : Bool := false
  /-- What the handles of tags stand for. -/
  handles : List (List Char × List Char) := []

namespace Reading

/-- One step of reading, with a value. -/
abbrev Read := StateT Reading (Except Fault)

/-- The next token. -/
def peek : Read (Option Token) := do
  let r ← get
  match r.tokens, r.fault with
  | [], some fault => throw fault
  | ts, _ => return ts.head?

/-- Passes over the next token. -/
def skip : Read Unit :=
  modify fun r => { r with tokens := r.tokens.tail }

/-- Passes over the next token if it is `t`, and says whether it was. -/
def accept (t : Token) : Read Bool := do
  if (← peek) = some t then
    skip
    return true
  else return false

/-- The next token is one of a list. -/
def isNext (ts : List Token) : Read Bool := do
  match ← peek with
  | some t => return t ∈ ts
  | none => return false

/-! ### Properties of nodes -/

/-- The full tag that a written tag names. -/
def fullTag (name : TagName) : Read (List Char) := do
  match name.handle with
  | none => return name.rest
  | some handle =>
    match (← get).handles.lookup handle with
    | some start => return start ++ name.rest
    | none => throw .malformed

/-- The anchor before a node, and its tag as it is written, in either order. -/
def properties : Read (Option (List Char) × Option TagName) := do
  match ← peek with
  | some (.anchor a) =>
    skip
    match ← peek with
    | some (.tag t) =>
      skip
      return (some a, some t)
    | _ => return (some a, none)
  | some (.tag t) =>
    skip
    match ← peek with
    | some (.anchor a) =>
      skip
      return (some a, some t)
    | _ => return (none, some t)
  | _ => return (none, none)

/-- The tag of a node: the one that is given, unless it is the mark for no tag. -/
def tagOr (ordinary : Tag) (given : Option (List Char)) : Tag :=
  match given with
  | none | some ['!'] => ordinary
  | some name => .ofName name

/-- Adds a node, and gives its number; an anchor may be used once. -/
def add (anchor : Option (List Char)) (node : Node) : Read Nat := do
  let r ← get
  if let some a := anchor then
    if (r.anchors.lookup a).isSome then throw .malformed
  let number := r.nodes.size
  set { r with
    nodes := r.nodes.push node
    anchors := (anchor.map (·, number)).toList ++ r.anchors }
  return number

/-- Adds a scalar. -/
def addScalar (anchor : Option (List Char)) (tag : Tag) (text : List Char) : Read Nat :=
  add anchor ⟨tag, .scalar text⟩

/-- Adds the scalar that is left out. -/
def addMissing : Read Nat :=
  addScalar none .null []

/-- Adds a collection whose content is read by `read`. -/
def addCollection (anchor : Option (List Char)) (tag : Tag) (read : Read Content) : Read Nat := do
  let number ← add anchor ⟨tag, .sequence []⟩
  modify fun r => { r with incomplete := number :: r.incomplete }
  let content ← read
  modify fun r => { r with
    nodes := r.nodes.setIfInBounds number ⟨tag, content⟩
    incomplete := r.incomplete.tail }
  return number

/-- Adds a sequence whose items are read by `read`. -/
def addSequence (anchor given : Option (List Char)) (read : Read (List Nat)) : Read Nat :=
  addCollection anchor (tagOr .sequence given) do return .sequence (← read)

/-- Adds a mapping whose entries are read by `read`. -/
def addMapping (anchor given : Option (List Char)) (read : Read (List (Nat × Nat))) : Read Nat :=
  addCollection anchor (tagOr .mapping given) do return .mapping (← read)

/-- The node that an alias names. -/
def aliased (name : List Char) : Read Nat := do
  let r ← get
  match r.anchors.lookup name with
  | none => throw .malformed
  | some number =>
    set { r with isCyclic := r.isCyclic || r.incomplete.contains number }
    return number

/-! ### Nodes -/

mutual

/-- The node at the next token; `block` admits indented collections, and `indentless` a sequence at
the indentation of its mapping.  It is nested less than `n` deep. -/
def node (n : Nat) (block indentless : Bool) : Read Nat := do
  match n with
  | 0 => throw .malformed
  | n + 1 =>
    if let some (.alias a) ← peek then
      skip
      return (← aliased a)
    let (anchor, written) ← properties
    let given ← written.mapM fullTag
    let next ← peek
    if indentless && next = some .entry then
      addSequence anchor given (indentlessItems n)
    else match next with
      | some (.scalar text plain) =>
        skip
        let isPlain := given = some ['!'] || (plain && given.isNone)
        addScalar anchor (tagOr (if isPlain then .ofPlain text else .text) given) text
      | some .openSequence =>
        addSequence anchor given (skip *> flowItems n true)
      | some .openMapping =>
        addMapping anchor given (skip *> flowEntries n true)
      | some .blockSequence =>
        if !block then throw .malformed
        addSequence anchor given (skip *> blockItems n)
      | some .blockMapping =>
        if !block then throw .malformed
        addMapping anchor given (skip *> blockEntries n)
      | _ =>
        if anchor.isNone && given.isNone then throw .malformed
        addScalar anchor (tagOr .null given) []

/-- The items of an indented sequence. -/
def blockItems (n : Nat) : Read (List Nat) := do
  match n with
  | 0 => throw .malformed
  | n + 1 =>
    if ← accept .entry then
      let item ← if ← isNext [.entry, .blockEnd] then addMissing else node n true false
      return item :: (← blockItems n)
    else if ← accept .blockEnd then return []
    else throw .malformed

/-- The items of a sequence at the indentation of its mapping. -/
def indentlessItems (n : Nat) : Read (List Nat) := do
  match n with
  | 0 => throw .malformed
  | n + 1 =>
    if ← accept .entry then
      let item ← if ← isNext [.entry, .key, .value, .blockEnd] then addMissing
        else node n true false
      return item :: (← indentlessItems n)
    else return []

/-- The entries of an indented mapping. -/
def blockEntries (n : Nat) : Read (List (Nat × Nat)) := do
  match n with
  | 0 => throw .malformed
  | n + 1 =>
    let part : Read Nat := do
      if ← isNext [.key, .value, .blockEnd] then addMissing else node n true true
    if ← accept .key then
      let key ← part
      let value ← if ← accept .value then part else addMissing
      return (key, value) :: (← blockEntries n)
    else if ← accept .blockEnd then return []
    else throw .malformed

/-- The key and the value of an entry between brackets, after the mark of the key; `closing` closes
the brackets. -/
def flowEntry (n : Nat) (closing : Token) : Read (Nat × Nat) := do
  match n with
  | 0 => throw .malformed
  | n + 1 =>
    let key ← if ← isNext [.value, .comma, closing] then addMissing else node n false false
    let value ← if ← accept .value then
        if ← isNext [.comma, closing] then addMissing else node n false false
      else addMissing
    return (key, value)

/-- The items of a sequence between brackets; a single entry may stand as an item. -/
def flowItems (n : Nat) (first : Bool) : Read (List Nat) := do
  match n with
  | 0 => throw .malformed
  | n + 1 =>
    if ← accept .closeSequence then return []
    if !first then
      if !(← accept .comma) then throw .malformed
    if (← peek) = some .key then
      let item ← addMapping none none do
        skip
        return [← flowEntry n .closeSequence]
      return item :: (← flowItems n false)
    else if ← accept .closeSequence then return []
    else
      let item ← node n false false
      return item :: (← flowItems n false)

/-- The entries of a mapping between brackets; a key may stand without a value. -/
def flowEntries (n : Nat) (first : Bool) : Read (List (Nat × Nat)) := do
  match n with
  | 0 => throw .malformed
  | n + 1 =>
    if ← accept .closeMapping then return []
    if !first then
      if !(← accept .comma) then throw .malformed
    if ← accept .key then
      let entry ← flowEntry n .closeMapping
      return entry :: (← flowEntries n false)
    else if ← accept .closeMapping then return []
    else
      let key ← node n false false
      return (key, ← addMissing) :: (← flowEntries n false)

end

/-! ### Documents -/

/-- The handles of tags that every document may use. -/
def commonHandles : List (List Char × List Char) :=
  [(['!'], ['!']), (['!', '!'], coreTagStart)]

/-- Reads at most `n` directives: of each handle and of the version there may be one, and the
version is the first. -/
def directives (hasVersion : Bool) : Nat → Read Unit
  | 0 => pure ()
  | n + 1 => do
    match ← peek with
    | some (.directive content) =>
      skip
      match content with
      | .version major =>
        if hasVersion || major ≠ 1 then throw .malformed
        directives true n
      | .handle name start =>
        let r ← get
        if (r.handles.lookup name).isSome then throw .malformed
        set { r with handles := (name, start) :: r.handles }
        directives hasVersion n
      | .other => directives hasVersion n
    | _ => pure ()

/-- Passes over all next marks of the end of a document, of which there are at most `n`. -/
def skipEnds : Nat → Read Unit
  | 0 => pure ()
  | n + 1 => do
    if ← accept .documentEnd then skipEnds n

/-- The next token is a directive or the mark of the start of a document. -/
def startsDocument : Read Bool := do
  match ← peek with
  | some (.directive _) | some .documentStart => return true
  | _ => return false

/-- Reads the directives before a document and the mark of its start. -/
def documentStart (n : Nat) : Read Unit := do
  modify fun r => { r with handles := [] }
  directives false n
  modify fun r => { r with handles := r.handles ++ commonHandles }
  if !(← accept .documentStart) then throw .malformed

/-- The one document of a text, if there is any. -/
def document : Read (Option Nat) := do
  let count := (← get).tokens.length
  let bound := 3 * count + 3
  modify fun r => { r with handles := commonHandles }
  if (← peek).isNone then return none
  let root ←
    if ← startsDocument then
      documentStart count
      let isEmpty := (← peek).isNone || (← startsDocument) || (← peek) = some .documentEnd
      if isEmpty then addMissing else node bound true false
    else node bound true false
  skipEnds count
  if (← peek).isSome then
    documentStart count
    throw .malformed
  return some root

end Reading

/-- The nodes of a text, if it holds a document. -/
def document (text : List Char) : Except Fault (Option Document) := do
  let stream := tokens text
  let (root, r) ← Reading.document.run { tokens := stream.tokens, fault := stream.fault }
  pure (root.map fun root => ⟨r.nodes, root, r.isCyclic⟩)

end DocTable.Yaml
