import DocTable.Value.SetOrder
import DocTable.Yaml.Fault
import DocTable.Yaml.Loader
import DocTable.Yaml.Node
import DocTable.Yaml.ScalarValue

/-!
# Reading YAML

`Yaml.load` reads the value of a text of one document.  A mapping may take over the entries of
others by the key `<<`, and a repeated key keeps its first place and its last value.  The nodes are
gone through level by level, so of several faults the one nearest to the root is reported.
-/

namespace DocTable.Yaml

/-- The tag is that of a collection. -/
def Tag.isCollection : Tag → Bool
  | sequence | mapping | set | pairs => true
  | _ => false

/-- The state of going through a document: its nodes, where what a mapping takes over is among its
own entries once it has been reached, and the values of the scalars so far. -/
structure Building where
  nodes : Array Node
  scalars : Array (Option Value)
  /-- The nodes that have been reached. -/
  reached : Array Bool
  /-- The collections whose content is to be gone through next, the last of them first. -/
  waiting : List Nat := []

namespace Building

/-- One step of going through a document, with a value. -/
abbrev Build := StateT Building (Except Fault)

/-- The node with a number. -/
def nodeAt (number : Nat) : Build Node := do
  return (← get).nodes[number]?.getD default

/-- The entries of a mapping; another node has none. -/
def entriesOf (number : Nat) : Build (List (Nat × Nat)) := do
  match (← nodeAt number).content with
  | .mapping entries => return entries
  | _ => return []

/-- Puts a node in the place of another one. -/
def setNode (number : Nat) (node : Node) : Build Unit :=
  modify fun b => { b with nodes := b.nodes.setIfInBounds number node }

/-- Gives a mapping other entries. -/
def setEntries (number : Nat) (entries : List (Nat × Nat)) : Build Unit := do
  setNode number { (← nodeAt number) with content := .mapping entries }

/-! ### Entries taken over -/

/-- The entries of a mapping that is to be taken over. -/
def entriesTaken (flatten : Nat → Build Unit) (number : Nat) : Build (List (Nat × Nat)) := do
  match (← nodeAt number).content with
  | .mapping _ =>
    flatten number
    entriesOf number
  | _ => throw .malformed

/-- The entries that a mapping takes over, from its entry `index` on; the keys for that are taken
out of it.  The key of a default value counts as a text. -/
def takenOver (flatten : Nat → Build Unit) (number : Nat) :
    Nat → Nat → Build (List (Nat × Nat))
  | 0, _ => return []
  | n + 1, index => do
    let entries ← entriesOf number
    match entries[index]? with
    | none => return []
    | some (key, value) =>
      let node ← nodeAt key
      match node.tag with
      | .merge =>
        setEntries number (entries.eraseIdx index)
        let taken ← match (← nodeAt value).content with
          | .sequence items => do
            pure (← items.mapM (entriesTaken flatten)).reverse.flatten
          | _ => entriesTaken flatten value
        return taken ++ (← takenOver flatten number n index)
      | .default =>
        setNode key { node with tag := .text }
        takenOver flatten number n (index + 1)
      | _ => takenOver flatten number n (index + 1)

/-- Puts the entries that a mapping takes over in front of its own.  The numbers bound the mappings
that are taken over one by another, and the entries of a mapping. -/
def flatten (bound : Nat) : Nat → Nat → Build Unit
  | 0, _ => pure ()
  | n + 1, number => do
    let taken ← takenOver (flatten bound n) number bound 0
    if !taken.isEmpty then setEntries number (taken ++ (← entriesOf number))

/-! ### Scalars and collections -/

/-- The text of a scalar, or of the default value of a mapping. -/
def textAt : Nat → Nat → Build (List Char)
  | 0, _ => throw .endless
  | n + 1, number => do
    match (← nodeAt number).content with
    | .scalar text => return text
    | .sequence _ => throw .malformed
    | .mapping entries =>
      let defaults ← entries.filterM fun (key, _) => return (← nodeAt key).tag = .default
      match defaults with
      | (_, value) :: _ => textAt n value
      | [] => throw .malformed

/-- The value of a node whose tag is that of a scalar. -/
def scalarAt (number : Nat) : Build Value := do
  let text ← textAt ((← get).nodes.size + 1) number
  let node ← nodeAt number
  match node.tag, node.content with
  | .time, .mapping _ => throw .timeOfMapping
  | tag, _ => tag.scalarValue text

/-- Reaches a node: the value of a scalar is noted, and the content of a collection waits. -/
def reach (number : Nat) : Build Unit := do
  let b ← get
  if b.reached[number]?.getD false then return
  let tag := (← nodeAt number).tag
  if tag.isCollection then
    modify fun b => { b with waiting := number :: b.waiting }
  else if tag ∈ [.merge, .default, .other] then throw .malformed
  else
    let v ← scalarAt number
    modify fun b => { b with scalars := b.scalars.setIfInBounds number (some v) }
  modify fun b => { b with reached := b.reached.setIfInBounds number true }

/-- Reaches the content of a collection. -/
def enter (number : Nat) : Build Unit := do
  let node ← nodeAt number
  match node.tag, node.content with
  | .sequence, .sequence items => items.forM reach
  | .pairs, .sequence items =>
    items.forM fun item => do
      match (← nodeAt item).content with
      | .mapping [(key, value)] =>
        reach key
        reach value
      | _ => throw .malformed
  | .mapping, .mapping _ | .set, .mapping _ =>
    let bound := (← get).nodes.size + 1
    flatten (bound * bound) bound number
    (← entriesOf number).forM fun (key, value) => do
      reach key
      if (← nodeAt key).tag.isCollection then throw .malformed
      reach value
  | _, _ => throw .malformed

/-- Reaches everything that waits, level by level. -/
def enterAll : Nat → Build Unit
  | 0 => pure ()
  | n + 1 => do
    let level := (← get).waiting.reverse
    if level.isEmpty then return
    modify fun b => { b with waiting := [] }
    level.forM enter
    enterAll n

/-! ### Values -/

/-- The value of a node.  The values of other nodes come from `inside`, which is told the nodes on
the way to them, and `mark` marks a list, a map or a pair by the number of its node. -/
def valueWith {m : Type → Type} [Monad m] (b : Building) (inside : List Nat → Nat → m Value)
    (mark : Nat → Value → Value) (number : Nat) : m Value := do
  let node := b.nodes[number]?.getD default
  match node.tag, node.content with
  | .sequence, .sequence items => return mark number (.list (← items.mapM (inside [number])))
  | .pairs, .sequence items =>
    let pairs ← items.mapM fun item => do
      match b.nodes[item]?.map Node.content with
      | some (.mapping ((key, value) :: _)) =>
        let inside := inside [item, number]
        return mark item (.pair (← inside key) (← inside value))
      | _ => return .null
    return mark number (.list pairs)
  | .mapping, .mapping entries =>
    let entries ← entries.mapM fun (key, value) => do
      return (← inside [number] key, ← inside [number] value)
    return mark number (.ofEntries entries)
  | .set, .mapping entries =>
    let items ← entries.mapM fun (key, _) => inside [number] key
    return .set (Value.setOrder (Value.distinct items))
  | _, _ => return (b.scalars[number]?.join).getD .null

/-- The value of a node, nested less than `n` deep in the nodes `around`.  Lists, maps and pairs are
numbered so that they may hold themselves. -/
def numberedValue (b : Building) : Nat → List Nat → Nat → Value
  | 0, _, number => .again number
  | n + 1, around, number =>
    if around.contains number then .again number
    else
      let inside (way : List Nat) (other : Nat) : Id Value :=
        b.numberedValue n (way ++ around) other
      Id.run (b.valueWith inside .loop number)

/-- The value of a node, nested less than `n` deep, among the values that are known already.
However often an alias leads to a node, its value is worked out once. -/
def sharedValue (b : Building) : Nat → Nat → StateM (Array (Option Value)) Value
  | 0, _ => return .null
  | n + 1, number => do
    if let some known := (← get)[number]?.join then
      return known
    let v ← b.valueWith (fun _ other => b.sharedValue n other) (fun _ v => v) number
    modify fun known => known.setIfInBounds number (some v)
    return v

end Building

/-- The value of a document. -/
def Document.value (d : Document) : Except Fault Value := do
  let count := d.nodes.size
  let start : Building :=
    { nodes := d.nodes, scalars := .replicate count none, reached := .replicate count false }
  let build : Building.Build Unit := do
    Building.reach d.root
    Building.enterAll (count + 1)
  let ((), b) ← build.run start
  if d.isCyclic then pure (b.numberedValue (count + 1) [] d.root)
  else pure ((b.sharedValue (count + 1) d.root).run (.replicate count none)).1

/-- The value of the one document of a text; a text without a document stands for null. -/
def load (text : String) : Except Fault Value := do
  match ← document (Text.unifyBreaks text.toList) with
  | none => pure .null
  | some d => d.value

/-! ### The loader -/

/-- A fault as loaders tell it. -/
def Fault.toFailure : Fault → LoadFailure
  | malformed => .malformed "the text is not well formed"
  | fault => .foreign { message := fault.message, isExpected := fault.isWrongValue }

/-- The loader that reads texts by `load`. -/
def loader : Loader :=
  fun text => (load text).mapError Fault.toFailure

end DocTable.Yaml
