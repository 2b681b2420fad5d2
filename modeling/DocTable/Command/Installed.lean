import DocTable.Command.Product
import DocTable.Link.Host
import DocTable.Markdown.Html
import DocTable.Markup.Entities
import DocTable.Yaml.Load

/-!
# What is installed

`Command.installed` is what the program makes use of where nothing else is installed: loaders,
converters and templates of its own, and no plugins.
-/

namespace DocTable.Command

/-- What comes with the program. -/
def installed : Installation where
  loadYaml := Yaml.loader
  markdown := Markdown.library
  engine := Report.plainEngine
  plugins := []
  version? := some "0.7.1"
  release := { keepsDashes := true, splitsSigns := true, isHost := Link.isHost }

end DocTable.Command
