import BufferFormat.CommandLine.Argument
import BufferFormat.Config
import BufferFormat.Path
import BufferFormat.Text.Decimal

/-!
# The command line

What a user asked for. Every setting has a text that writes it, and giving a setting by that text
restores it.

## Main definitions

* `CommandLine`: The arguments of a run.
* `CommandLine.text?`, `CommandLine.give`: The settings as texts.
* `CommandLine.has`, `CommandLine.turnOn`: The flags.
* `CommandLine.applyTo`: A configuration changed by what was asked for.
* `UsageError`: What makes a command line unusable.
-/

namespace BufferFormat

/-- The arguments of a run. -/
structure CommandLine where
  /-- Files and directories to format. -/
  inputs : List Path := []
  /-- The formatter's executable. -/
  command : Option String := none
  lineLength : Option UInt32 := none
  fast : Bool := false
  skipStringNormalization : Bool := false
  includePattern : Option String := none
  excludePattern : Option String := none
  py36 : Bool := false
  /-- The encoding of files that declare none. -/
  defaultEncoding : Option String := none
  /-- The encoding of all files, whatever they declare. -/
  encoding : Option String := none
  /-- Show diffs and change nothing. -/
  diff : Bool := false
  /-- Print results and change nothing. -/
  stdout : Bool := false
  /-- The one configuration file to use. -/
  config : Option Path := none
  /-- Look into the directories below the given ones. -/
  recursive : Bool := false
  /-- How many files to format at once. -/
  jobs : Option UInt64 := none
  debug : Bool := false
  /-- Print no messages. -/
  silent : Bool := false
  deriving DecidableEq, Repr

/-- What makes a command line unusable. -/
inductive UsageError where
  /-- There is no such option. -/
  | unknown (option : String)
  /-- A value is missing, or a path is empty. -/
  | missing (argument : Argument)
  /-- A value is not of the kind that the setting needs. -/
  | invalid (setting : Setting) (value : String)
  /-- An option is given twice. -/
  | repeated (option : Named)
  /-- A value is given to an option that has none. -/
  | unneeded (option : Named) (value : String)
  deriving DecidableEq, Repr

/-- What a usage error says. -/
def UsageError.message : UsageError → String
  | .unknown option => "unexpected argument '" ++ option ++ "' found"
  | .missing argument => "a value is required for '" ++ argument.shown ++ "' but none was supplied"
  | .invalid setting value =>
    "invalid value '" ++ value ++ "' for '" ++ (Named.setting setting).shown ++ "'"
  | .repeated option => "the argument '" ++ option.shown ++ "' cannot be used multiple times"
  | .unneeded option value =>
    "unexpected value '" ++ value ++ "' for '" ++ option.shown ++ "' found; no more were expected"

namespace CommandLine

/-- A number without a sign, or with a plus. -/
def number? (text : String) : Option Nat :=
  match text.toList with
  | '+' :: rest => Text.natural? rest
  | cs => Text.natural? cs

/-- A line length is at least one and has 32 bits. -/
def lineLength? (text : String) : Option UInt32 :=
  (number? text).bind fun n => if 1 ≤ n ∧ n < UInt32.size then some (UInt32.ofNat n) else none

/-- A number of jobs has 64 bits. -/
def jobs? (text : String) : Option UInt64 :=
  (number? text).bind fun n => if n < UInt64.size then some (UInt64.ofNat n) else none

/-- The text of a setting, if it is given. -/
def text? (c : CommandLine) : Setting → Option String
  | .blackCommand => c.command
  | .lineLength => c.lineLength.map fun n => toString n.toNat
  | .includePattern => c.includePattern
  | .excludePattern => c.excludePattern
  | .defaultEncoding => c.defaultEncoding
  | .encoding => c.encoding
  | .config => c.config.map Path.text
  | .jobs => c.jobs.map fun n => toString n.toNat

/-- Give a setting by its text, whether it was given before or not. -/
def set (c : CommandLine) (setting : Setting) (text : String) : Except UsageError CommandLine :=
  match setting with
  | .blackCommand => .ok { c with command := some text }
  | .lineLength =>
    match lineLength? text with
    | some n => .ok { c with lineLength := some n }
    | none => .error (.invalid setting text)
  | .includePattern => .ok { c with includePattern := some text }
  | .excludePattern => .ok { c with excludePattern := some text }
  | .defaultEncoding => .ok { c with defaultEncoding := some text }
  | .encoding => .ok { c with encoding := some text }
  | .config =>
    if text.isEmpty then .error (.missing (.named (.setting .config)))
    else .ok { c with config := some ⟨text⟩ }
  | .jobs =>
    match jobs? text with
    | some n => .ok { c with jobs := some n }
    | none => .error (.invalid setting text)

/-- Give a setting by its text. No setting is given twice. -/
def give (c : CommandLine) (setting : Setting) (text : String) : Except UsageError CommandLine :=
  if (c.text? setting).isSome then .error (.repeated (.setting setting)) else c.set setting text

/-- Whether a flag is given. -/
def has (c : CommandLine) : Flag → Bool
  | .fast => c.fast
  | .skipStringNormalization => c.skipStringNormalization
  | .py36 => c.py36
  | .diff => c.diff
  | .stdout => c.stdout
  | .recursive => c.recursive
  | .debug => c.debug
  | .silent => c.silent

/-- Give a flag, whether it was given before or not. -/
def raise (c : CommandLine) : Flag → CommandLine
  | .fast => { c with fast := true }
  | .skipStringNormalization => { c with skipStringNormalization := true }
  | .py36 => { c with py36 := true }
  | .diff => { c with diff := true }
  | .stdout => { c with stdout := true }
  | .recursive => { c with recursive := true }
  | .debug => { c with debug := true }
  | .silent => { c with silent := true }

/-- Give a flag. No flag is given twice. -/
def turnOn (c : CommandLine) (flag : Flag) : Except UsageError CommandLine :=
  if c.has flag then .error (.repeated (.flag flag)) else .ok (c.raise flag)

/-- Add files to format. None of their paths is empty. -/
def addInputs (c : CommandLine) (texts : List String) : Except UsageError CommandLine :=
  if texts.any String.isEmpty then .error (.missing .inputs)
  else .ok { c with inputs := c.inputs ++ texts.map Path.mk }

/-- A configuration changed by what was asked for. Flags only ever turn something on. -/
def applyTo (c : CommandLine) (config : Config) : Config :=
  { config with
    command := c.command.getD config.command
    lineLength := c.lineLength <|> config.lineLength
    fast := c.fast || config.fast
    skipStringNormalization := c.skipStringNormalization || config.skipStringNormalization
    includePattern := c.includePattern <|> config.includePattern
    excludePattern := c.excludePattern <|> config.excludePattern
    py36 := c.py36 || config.py36
    defaultEncoding := c.defaultEncoding.getD config.defaultEncoding
    debug := c.debug || config.debug }

end CommandLine

end BufferFormat
