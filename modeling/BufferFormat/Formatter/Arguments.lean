import BufferFormat.Config
import BufferFormat.Path

/-!
# The formatter's command line

The executable, a dash for standard input, extra arguments, then the options in a fixed order.

## Main definitions

* `Formatter.isStub`: Files that hold type stubs.
* `Formatter.commandLine`: The whole argument vector.
-/

namespace BufferFormat

namespace Formatter

/-- Tells the formatter to read standard input. -/
def stdinMarker : String := "-"

/-- Asks for a diff instead of the formatted text. -/
def diffFlag : String := "--diff"

/-- Whether a path names a file of type stubs. -/
def isStub (p : Path) : Bool :=
  p.extension? == some "pyi"

/-- A flag, if it is set. -/
def flag (name : String) (isSet : Bool) : List String :=
  if isSet then [name] else []

/-- An option with its value, if it has one. -/
def option (name : String) : Option String → List String
  | some value => [name, value]
  | none => []

/-- The options of a configuration, and the one that a file of stubs needs. -/
def optionsFor (config : Config) (file : Option Path) : List String :=
  option "-l" (config.lineLength.map fun n => toString n.toNat) ++
    flag "--fast" config.fast ++
    flag "--skip-string-normalization" config.skipStringNormalization ++
    option "--include" config.includePattern ++
    option "--exclude" config.excludePattern ++
    flag "--py36" config.py36 ++
    flag "--pyi" (file.any isStub)

/-- The command line for a file, with `extra` arguments right after the standard input marker. -/
def commandLine (config : Config) (file : Option Path) (extra : List String) : List String :=
  config.command :: stdinMarker :: (extra ++ optionsFor config file)

end Formatter

end BufferFormat
