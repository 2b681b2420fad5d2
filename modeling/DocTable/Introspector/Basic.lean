import DocTable.Manifest.Read

/-!
# Introspectors

An introspector reads the symbols of the files that it accepts.  A file goes to the first of a list
of introspectors that accepts it.
-/

namespace DocTable

/-- A reader of symbols. -/
structure Introspector (ε : Type) where
  accepts : Path → Bool
  inspect : Disk → Path → Logged ε (List Symbol)

namespace Introspector

variable {ε : Type}

/-- The reader of manifests, the failures of which are told by `fail`. -/
def manifests (loadYaml : Yaml.Loader) (fail : Manifest.Failure → ε) : Introspector ε where
  accepts := Manifest.accepts
  inspect disk p := (Manifest.read loadYaml disk p).toLogged.mapError fail

/-- The first introspector that accepts a file. -/
def select? (introspectors : List (Introspector ε)) (p : Path) : Option (Introspector ε) :=
  introspectors.find? (·.accepts p)

/-- Some introspector accepts a file. -/
def anyAccepts (introspectors : List (Introspector ε)) (p : Path) : Bool :=
  (select? introspectors p).isSome

end Introspector

end DocTable
