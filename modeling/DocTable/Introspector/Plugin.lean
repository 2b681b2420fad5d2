import DocTable.FileTree.Scan
import DocTable.Introspector.Basic

/-!
# Plugins

`Plugin.discover` lists the introspectors that are to be used: the reader of manifests comes first,
and the plugins follow by their lower-cased names.  The names of all introspectors differ, whatever
their letter case.
-/

namespace DocTable

/-- What comes of loading a plugin. -/
inductive Plugin.Loaded (ε : Type) where
  | introspector (i : Introspector ε)
  /-- Something that is no introspector. -/
  | other
  | failing (cause : String)

/-- A plugin under the name that it is registered with. -/
structure Plugin (ε : Type) where
  name : String
  loaded : Plugin.Loaded ε

namespace Plugin

/-- Why the introspectors cannot be listed. -/
inductive Failure where
  | nameTaken (name : String)
  | notLoaded (name cause : String)
  | noIntrospector (name : String)
  /-- Introspectors are asked for that there are not. -/
  | unknown (names : List String)
  deriving DecidableEq, Repr

/-- What is said of a failure. -/
def Failure.message : Failure → String
  | nameTaken name => "Introspector plugin '" ++ name ++ "' reuses a registered name"
  | notLoaded name cause => "Failed to load introspector plugin '" ++ name ++ "': " ++ cause
  | noIntrospector name =>
    "Introspector plugin '" ++ name ++ "' must name an Introspector subclass or instance"
  | unknown names => "Unknown introspectors requested: " ++ ", ".intercalate names

variable {ε : Type}

/-- The name by which plugins are ordered and told apart. -/
def key (plugin : Plugin ε) : String :=
  Text.lower plugin.name

/-- The name of the reader of manifests among those of plugins. -/
def manifestsKey : String := "manifest"

/-- The introspector of a plugin. -/
def load (plugin : Plugin ε) : Except Failure (Introspector ε) :=
  match plugin.loaded with
  | .introspector i => .ok i
  | .other => .error (.noIntrospector plugin.name)
  | .failing cause => .error (.notLoaded plugin.name cause)

/-- The introspector accepts manifests too. -/
def acceptsManifests (i : Introspector ε) : Bool :=
  Manifest.suffixes.any fun suffix => i.accepts (.ofText ("sample" ++ suffix))

/-- A lower-cased name is asked for; without a list all names are. -/
def isWanted (enabled : Option (List String)) (key : String) : Bool :=
  match enabled with
  | none => true
  | some names => key ∈ names.map Text.lower

/-- The introspectors of those plugins that are wanted; `taken` are the names before them. -/
def loadAll (enabled : Option (List String)) (taken : List String) :
    List (Plugin ε) → Logged Failure (List (Introspector ε))
  | [] => pure []
  | plugin :: plugins => do
    if plugin.key ∈ taken then throw (.nameTaken plugin.name)
    if isWanted enabled plugin.key then
      let i ← plugin.load
      Logged.report (if acceptsManifests i then [.manifestsKept plugin.name] else [])
      let rest ← loadAll enabled (plugin.key :: taken) plugins
      pure (i :: rest)
    else
      loadAll enabled (plugin.key :: taken) plugins

/-- The names that are asked for and that there are not, in order. -/
def missing (enabled : Option (List String)) (known : List String) : List String :=
  FileTree.sortNames (((enabled.getD []).map Text.lower).filter (· ∉ known)).eraseDups

/-- The introspectors to be used: the reader of manifests and then the plugins. -/
def discover (manifests : Introspector ε) (plugins : List (Plugin ε))
    (enabled : Option (List String)) : Logged Failure (List (Introspector ε)) := do
  let sorted := plugins.mergeSort fun a b => decide (a.key ≤ b.key)
  let found ← loadAll enabled [manifestsKey] sorted
  match missing enabled (manifestsKey :: sorted.map key) with
  | [] => pure ((if isWanted enabled manifestsKey then [manifests] else []) ++ found)
  | names => throw (.unknown names)

end Plugin

end DocTable
