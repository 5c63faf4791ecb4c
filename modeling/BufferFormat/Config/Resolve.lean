import BufferFormat.CommandLine.Basic
import BufferFormat.Config.Layer

/-!
# The configuration of a run

What the command line says wins over all files. A file that the command line names takes the place
of those that would be looked for, and then it has to be usable.

## Main definitions

* `CommandLine.layers`: The configuration before the command line changes it.
* `CommandLine.resolve`: The configuration for a path.
-/

namespace BufferFormat

/-- A configuration that is usable. -/
def Config.checked (config : Config) : Except Fault Config :=
  match config.defect? with
  | some defect => .error (.invalidConfig defect.message)
  | none => .ok config

namespace CommandLine

/-- The configuration of the files, with what there is to say about them. -/
def layers (line : CommandLine) (w : World) (start : Path) : Except Fault Config × List Warning :=
  match line.config with
  | some file => (Config.ofFile w file, [])
  | none =>
    let (config, warnings) := Config.discovered w start
    (.ok config, warnings)

/-- The configuration for a path, with what there is to say about its files. -/
def resolve (line : CommandLine) (w : World) (start : Path) : Except Fault Config × List Warning :=
  let (config, warnings) := line.layers w start
  (config.bind fun config => (line.applyTo config).checked, warnings)

end CommandLine

end BufferFormat
