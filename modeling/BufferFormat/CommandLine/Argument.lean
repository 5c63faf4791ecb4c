/-!
# Arguments of the command line

What may stand on the command line. This is the only place that says how an option is spelled:
reading, help and writing all go by it.

## Main definitions

* `Setting`, `Flag`, `Query`: Options with a value, without one, and those that only ask for a text.
* `Named`: Any option.
* `Named.all`: All options, in the order of the help.
* `Argument`: An option, or the files to format.
-/

namespace BufferFormat

/-- Options with a value. -/
inductive Setting where
  | blackCommand
  | lineLength
  | includePattern
  | excludePattern
  | defaultEncoding
  | encoding
  | config
  | jobs
  deriving DecidableEq, Repr

/-- Options that are given or not. -/
inductive Flag where
  | fast
  | skipStringNormalization
  | py36
  | diff
  | stdout
  | recursive
  | debug
  | silent
  deriving DecidableEq, Repr

/-- Options that ask for a text in place of a run. -/
inductive Query where
  | help
  | version
  deriving DecidableEq, Repr

/-- Any option. -/
inductive Named where
  | setting (s : Setting)
  | flag (f : Flag)
  | query (q : Query)
  deriving DecidableEq, Repr

/-- What may stand on the command line. -/
inductive Argument where
  /-- The files and directories to format. -/
  | inputs
  | named (n : Named)
  deriving DecidableEq, Repr

/-- The name of a setting, after two dashes. -/
def Setting.long : Setting → String
  | .blackCommand => "black-command"
  | .lineLength => "line-length"
  | .includePattern => "include"
  | .excludePattern => "exclude"
  | .defaultEncoding => "default-encoding"
  | .encoding => "encoding"
  | .config => "config"
  | .jobs => "jobs"

/-- The letter of a setting, after one dash. -/
def Setting.short? : Setting → Option Char
  | .lineLength => some 'l'
  | .config => some 'c'
  | .jobs => some 'j'
  | _ => none

/-- What stands for the value of a setting in messages. -/
def Setting.placeholder : Setting → String
  | .blackCommand => "PATH"
  | .lineLength => "NUM"
  | .includePattern => "REGEX"
  | .excludePattern => "REGEX"
  | .defaultEncoding => "ENCODING"
  | .encoding => "ENCODING"
  | .config => "FILE"
  | .jobs => "NUM"

/-- What a setting is for. -/
def Setting.about : Setting → String
  | .blackCommand => "Formatter executable [default: black]"
  | .lineLength => "Target line length, passed to Black as -l"
  | .includePattern => "Regex passed to Black as --include"
  | .excludePattern => "Regex passed to Black as --exclude"
  | .defaultEncoding => "Encoding used when the input declares none [default: utf-8]"
  | .encoding => "Encoding of the input; overrides any coding declaration"
  | .config => "Path to configuration file (overrides auto-discovery)"
  | .jobs => "Number of parallel jobs (0=auto, 1=sequential)"

/-- The name of a flag, after two dashes. -/
def Flag.long : Flag → String
  | .fast => "fast"
  | .skipStringNormalization => "skip-string-normalization"
  | .py36 => "py36"
  | .diff => "diff"
  | .stdout => "stdout"
  | .recursive => "recursive"
  | .debug => "debug"
  | .silent => "silent"

/-- The letter of a flag, after one dash. -/
def Flag.short? : Flag → Option Char
  | .diff => some 'd'
  | .stdout => some 's'
  | .recursive => some 'r'
  | .debug => some 'D'
  | .silent => some 'S'
  | _ => none

/-- What a flag is for. -/
def Flag.about : Flag → String
  | .fast => "Pass --fast (skip Black's AST safety checks)"
  | .skipStringNormalization => "Pass --skip-string-normalization"
  | .py36 => "Pass --py36"
  | .diff => "Show diff without modifying files"
  | .stdout => "Output to stdout instead of modifying files in-place"
  | .recursive => "Recursively format .py/.pyi files in directories"
  | .debug => "Enable debug logging (RUST_LOG overrides)"
  | .silent => "Silent mode (no status messages, for editor integration)"

/-- The name of a query, after two dashes. -/
def Query.long : Query → String
  | .help => "help"
  | .version => "version"

/-- The letter of a query, after one dash. -/
def Query.short : Query → Char
  | .help => 'h'
  | .version => 'V'

/-- What a query is for. -/
def Query.about : Query → String
  | .help => "Print help"
  | .version => "Print version"

namespace Named

/-- The name of an option, after two dashes. -/
def long : Named → String
  | .setting s => s.long
  | .flag f => f.long
  | .query q => q.long

/-- The letter of an option, after one dash. -/
def short? : Named → Option Char
  | .setting s => s.short?
  | .flag f => f.short?
  | .query q => some q.short

/-- What an option is for. -/
def about : Named → String
  | .setting s => s.about
  | .flag f => f.about
  | .query q => q.about

/-- All options, in the order of the help. -/
def all : List Named :=
  [.setting .blackCommand, .setting .lineLength, .flag .fast, .flag .skipStringNormalization,
    .setting .includePattern, .setting .excludePattern, .flag .py36, .setting .defaultEncoding,
    .setting .encoding, .flag .diff, .flag .stdout, .setting .config, .flag .recursive,
    .setting .jobs, .flag .debug, .flag .silent, .query .help, .query .version]

/-- The option of a name. A name counts in full only. -/
def ofLong? (name : String) : Option Named :=
  all.find? fun n => n.long == name

/-- The option of a letter. -/
def ofShort? (letter : Char) : Option Named :=
  all.find? fun n => n.short? == some letter

/-- An option as it is shown: its name, and what stands for its value. -/
def shown : Named → String
  | .setting s => "--" ++ s.long ++ " <" ++ s.placeholder ++ ">"
  | n => "--" ++ n.long

end Named

namespace Argument

/-- An argument as it is shown. -/
def shown : Argument → String
  | .inputs => "[FILE]..."
  | .named n => n.shown

end Argument

end BufferFormat
