import BufferFormat.CommandLine.Basic

/-!
# Writing a command line

Every given option is one token with its full name, which leaves no doubt about what a value may
look like. The files come last, after the separator.

## Main definitions

* `CommandLine.options`: The tokens of the options that are given.
* `CommandLine.render`: A whole command line.
-/

namespace BufferFormat

namespace CommandLine

/-- The token of an option, if it is given. -/
def token? (c : CommandLine) : Named → Option String
  | .setting s => (c.text? s).map fun value => "--" ++ s.long ++ "=" ++ value
  | .flag f => if c.has f then some ("--" ++ f.long) else none
  | .query _ => none

/-- The tokens of the options that are given. -/
def options (c : CommandLine) : List String :=
  Named.all.filterMap c.token?

/-- A whole command line, with the options in the order of `options`. -/
def render (program : String) (options : List String) (inputs : List Path) : List String :=
  program :: options ++ "--" :: inputs.map Path.text

end CommandLine

end BufferFormat
