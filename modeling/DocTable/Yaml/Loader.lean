import DocTable.Value.Basic

/-!
# Loaders of YAML

The value of a YAML text is told by a loader, which is given.  A failure of it, as of anything else
that is given, is told by its message alone, and by whether a command is prepared for it.
-/

namespace DocTable

/-- A failure of something that is given. -/
structure ForeignFailure where
  message : String
  /-- It is of a kind that commands report by themselves. -/
  isExpected : Bool
  deriving DecidableEq, Repr

namespace Yaml

/-- Why a YAML text is not loaded. -/
inductive LoadFailure where
  /-- The text is not well formed, or has something in it that is not read. -/
  | malformed (message : String)
  | foreign (cause : ForeignFailure)
  deriving DecidableEq, Repr

/-- A loader of YAML. -/
abbrev Loader := String → Except LoadFailure Value

end Yaml

end DocTable
