import DocTable.DocBlock

/-!
# Symbols

A documented symbol is a class, a trait or an interface, with the constants, properties and methods
that it declares itself.  The members of each section are kept in the order of their declaration,
under their names.
-/

namespace DocTable

/-- The kind of a symbol. -/
inductive SymbolKind where
  /-- A class, abstract or not. -/
  | ordinary
  | trait
  | interface
  deriving DecidableEq, Repr

namespace SymbolKind

/-- The word for a kind of symbol. -/
def word : SymbolKind → String
  | .ordinary => "class"
  | .trait => "trait"
  | .interface => "interface"

/-- The kind that a word names. -/
def ofWord? (w : String) : Option SymbolKind :=
  [ordinary, trait, interface].find? (·.word = w)

end SymbolKind

/-- The kind of a member. -/
inductive MemberKind where
  | constant
  | property
  | method
  deriving DecidableEq, Repr

/-- The word for a kind of member. -/
def MemberKind.word : MemberKind → String
  | .constant => "constant"
  | .property => "property"
  | .method => "method"

/-- A parameter of a method. -/
structure Parameter where
  name : String
  type : String := ""
  /-- The printed default; empty when there is none. -/
  defaultText : String := ""
  deriving DecidableEq, Repr

/-- A constant, a property or a method.  The type of a method is what it returns. -/
structure Member where
  name : String
  kind : MemberKind
  modifiers : List String := []
  type : String := ""
  /-- The printed default; empty when there is none, and `null` for a null that is given. -/
  defaultText : String := ""
  docBlock : DocBlock := .empty
  parameters : List Parameter := []
  deriving DecidableEq

/-- A symbol with the members that it declares itself. -/
structure Symbol where
  shortName : String
  fullName : String
  namespaceName : String := ""
  sourceFile : String := ""
  kind : SymbolKind := .ordinary
  modifiers : List String := []
  parent : String := ""
  interfaces : List String := []
  docBlock : DocBlock := .empty
  constants : OrderedMap String Member := .empty
  properties : OrderedMap String Member := .empty
  methods : OrderedMap String Member := .empty
  deriving DecidableEq

namespace Symbol

/-- The constants, then the properties, then the methods. -/
def members (s : Symbol) : List Member :=
  s.constants.values ++ s.properties.values ++ s.methods.values

/-- The symbol declares a member. -/
def hasMembers (s : Symbol) : Bool :=
  !(s.constants.isEmpty && s.properties.isEmpty && s.methods.isEmpty)

end Symbol

/-- Symbols by namespace and short name, in order. -/
abbrev Snapshot := OrderedMap String (OrderedMap String Symbol)

end DocTable
