import DocTable.Command.Product

/-!
# Places of a command

A command looks at few places of a disk.  `Arguments.configPlaces` lists those that tell the
configuration, and `Arguments.filePlaces` and `Arguments.targetPlaces` those that matter once these
are known.
-/

namespace DocTable.Command.Arguments

/-- The places that tell the configuration. -/
def configPlaces (disk : Disk) (arguments : Arguments) : List Path :=
  arguments.config.toList.flatMap fun text =>
    match (Path.ofText text).expandUser disk.homes with
    | .ok p => [p, p.child Config.fileName]
    | .error _ => []

section

variable (loadYaml : Yaml.Loader) (disk : Disk) (arguments : Arguments)

/-- The configuration, if it can be read. -/
def config? : Option Config :=
  arguments.config.bind fun text => (Config.load loadYaml disk (.ofText text)).toOption

/-- The files that a command reads or writes by their own names. -/
def filePlaces : List Path :=
  let config := arguments.config? loadYaml disk
  let output := (pathOf? arguments.output).or (config.bind (·.output))
  let templates := (config.bind (·.templates)).toList.flatMap fun directory =>
    (Report.styleName :: Report.templateNames).map directory.child
  (pathOf? arguments.logFile).toList ++ output.toList ++ templates

/-- The directories that a command inspects. -/
def targetPlaces : List Path :=
  match arguments.config? loadYaml disk with
  | none => []
  | some config =>
    match baseOf disk arguments config with
    | .error _ => []
    | .ok base =>
      let targets := if arguments.targets.isEmpty then config.targets else arguments.targets
      targets.map fun target => base.join (.ofText target)

end

end DocTable.Command.Arguments
