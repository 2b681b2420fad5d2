import DocTable.Symbol
import DocTable.Text.Quoted

/-!
# The catalog

A catalog collects the symbols of one inspection after another.  A symbol that comes again replaces
its record and keeps its place.  Two symbols with different full names cannot share a namespace and
a short name: a batch with such a conflict is refused as a whole.
-/

namespace DocTable

/-- A symbol whose namespace and short name are bound to another full name. -/
structure Conflict where
  namespaceName : String
  shortName : String
  existing : String
  incoming : String
  deriving DecidableEq, Repr

/-- The name by which a namespace is shown. -/
def namespaceTitle (namespaceName : String) : String :=
  if namespaceName = "" then "(global)" else namespaceName

/-- What is said of a conflict. -/
def Conflict.message (c : Conflict) : String :=
  "Symbol " ++ Text.quoted c.shortName ++ " in namespace "
    ++ Text.quoted (namespaceTitle c.namespaceName) ++ " resolves to both "
    ++ Text.quoted c.existing ++ " and " ++ Text.quoted c.incoming

/-- Where a symbol stands in a catalog: its namespace and its short name. -/
def Symbol.place (s : Symbol) : String × String := (s.namespaceName, s.shortName)

/-- The symbols collected so far. -/
abbrev Catalog := Snapshot

namespace Catalog

/-- The symbol with a namespace and a short name. -/
def find? (catalog : Catalog) (namespaceName shortName : String) : Option Symbol :=
  (catalog.get? namespaceName).bind (·.get? shortName)

/-- The catalog with a symbol, whatever was in its place. -/
def set (catalog : Catalog) (s : Symbol) : Catalog :=
  catalog.alter s.namespaceName fun symbols => (symbols.getD .empty).put s.shortName s

/-- The full name that a place is bound to: by the part of a batch that is checked already, or
else by the catalog. -/
def boundName? (catalog : Catalog) (pending : OrderedMap (String × String) String)
    (place : String × String) : Option String :=
  (pending.get? place).or ((catalog.find? place.1 place.2).map Symbol.fullName)

/-- The first conflict of a batch; `pending` has the full names of the part that is checked
already. -/
def conflict? (catalog : Catalog) (pending : OrderedMap (String × String) String) :
    List Symbol → Option Conflict
  | [] => none
  | s :: batch =>
    match (catalog.boundName? pending s.place).filter (· ≠ s.fullName) with
    | some existing => some ⟨s.namespaceName, s.shortName, existing, s.fullName⟩
    | none => catalog.conflict? (pending.put s.place s.fullName) batch

/-- Refuses a batch with a conflict. -/
def check (batch : List Symbol) : EStateM Conflict Catalog Unit := do
  match (← get).conflict? .empty batch with
  | some conflict => throw conflict
  | none => pure ()

/-- Checks a batch, then puts its symbols into the catalog one after the other. -/
def merge (batch : List Symbol) : EStateM Conflict Catalog Unit := do
  check batch
  batch.forM fun s => modify (·.set s)

/-- The catalog with all symbols of a batch, or the first conflict. -/
def ingest (catalog : Catalog) (batch : List Symbol) : Except Conflict Catalog :=
  match (merge batch).run catalog with
  | .ok _ next => .ok next
  | .error conflict _ => .error conflict

/-- The symbols of a batch that replace one of the catalog or of the batch itself. -/
def replacements (catalog : Catalog) : List Symbol → List Symbol
  | [] => []
  | s :: batch =>
    let later := (catalog.set s).replacements batch
    if (catalog.find? s.namespaceName s.shortName).isSome then s :: later else later

/-- The number of symbols. -/
def count (catalog : Catalog) : Nat :=
  (catalog.values.map OrderedMap.size).foldr (· + ·) 0

end Catalog

end DocTable
