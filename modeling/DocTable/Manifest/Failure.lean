import DocTable.FileTree.Access
import DocTable.Json.Reader
import DocTable.Symbol
import DocTable.Value.Unprintable
import DocTable.Yaml.Loader

/-!
# Failures of manifests

`Manifest.Failure` lists why a manifest gives no symbols, or no more of them.  A defect of its shape
is reported with the path of the manifest.
-/

namespace DocTable.Manifest

/-- A list of members, or of the parameters of a method. -/
inductive Section where
  | constants
  | properties
  | methods
  | parameters
  deriving DecidableEq, Repr

/-- The name of a section in a manifest. -/
def Section.word : Section → String
  | constants => "constants"
  | properties => "properties"
  | methods => "methods"
  | parameters => "params"

/-- What is wrong with the shape of a manifest.  The owner of a section is a symbol, by its full
name. -/
inductive Defect where
  | symbolsNoList
  | symbolNoMap (index : Nat)
  | symbolUnnamed (index : Nat)
  | unknownKind (owner kind : String)
  | memberUnnamed (kind : MemberKind) (owner : String)
  | parameterUnnamed (owner method : String)
  | sectionNoEntries (owner : String) (part : Section)
  | itemNoMap (owner : String) (part : Section)
  | attributesNoMap (owner : String) (part : Section) (key : String)
  deriving DecidableEq, Repr

/-- What is said of a place where a name is missing. -/
def nameMissing (place : String) : String :=
  place ++ " is missing 'name'"

/-- What is said of a defect. -/
def Defect.message : Defect → String
  | symbolsNoList => "'symbols' must be a list"
  | symbolNoMap index => "symbol #" ++ toString index ++ " must be a mapping"
  | symbolUnnamed index => nameMissing ("symbol #" ++ toString index)
  | unknownKind owner kind => owner ++ " has unknown kind " ++ Text.quoted kind
  | memberUnnamed kind owner => nameMissing (kind.word ++ " of " ++ owner)
  | parameterUnnamed owner method => nameMissing ("parameter of " ++ owner ++ "::" ++ method)
  | sectionNoEntries owner part => owner ++ " '" ++ part.word ++ "' must be a list or mapping"
  | itemNoMap owner part => "entries of " ++ owner ++ " '" ++ part.word ++ "' must be mappings"
  | attributesNoMap owner part key =>
    owner ++ " '" ++ part.word ++ "." ++ key ++ "' must be a mapping"

/-- Why the reading of a manifest ends early. -/
inductive Failure where
  /-- The manifest has a wrong shape. -/
  | shape (manifest : Path) (defect : Defect)
  | unreadable (manifest : Path) (cause : FileError)
  /-- The text of the manifest is not well formed. -/
  | unparsable (manifest : Path) (message : String)
  /-- The bytes of the manifest are not UTF-8. -/
  | notText (cause : Text.Utf8.Fault)
  /-- The loader of YAML fails in some other way. -/
  | noYaml (cause : ForeignFailure)
  /-- A JSON text has no value. -/
  | noJson (cause : Json.Fault)
  /-- A value cannot be printed. -/
  | unprintable (cause : Unprintable)
  /-- The path of a source file cannot be one. -/
  | noPath (cause : PathFault)
  deriving DecidableEq, Repr

/-- What is said of a failure. -/
def Failure.message : Failure → String
  | shape manifest defect => manifest.text ++ ": " ++ defect.message
  | unreadable manifest cause => "Failed to read " ++ manifest.text ++ ": " ++ cause.message
  | unparsable manifest message => "Failed to parse " ++ manifest.text ++ ": " ++ message
  | notText cause => cause.message
  | noYaml cause => cause.message
  | noJson cause => cause.message
  | unprintable cause => cause.message
  | noPath cause => cause.message

end DocTable.Manifest
