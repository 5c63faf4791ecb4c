import BufferFormat.Fault
import BufferFormat.Path

/-!
# Warnings

What is worth telling the user although the run goes on.

## Main definitions

* `Warning`: The kinds of warning.
* `Warning.message`: Their text.
-/

namespace BufferFormat

/-- What a run goes on in spite of. -/
inductive Warning where
  /-- The formatter's messages match neither marker. -/
  | unrecognizedStatus (stderr : String)
  /-- A project tried to choose the executable. -/
  | ignoredCommand (command : String)
  /-- A configuration file is malformed. -/
  | unusableFile (file : Path) (reason : Fault)
  /-- A configuration file cannot be read. -/
  | unreadableFile (file : Path) (reason : Fault)
  deriving DecidableEq, Repr

/-- What a warning says. -/
def Warning.message : Warning → String
  | .unrecognizedStatus _ =>
    "formatter stderr matches neither status marker, comparing output instead"
  | .ignoredCommand _ => "ignoring `command` set by a project config file"
  | .unusableFile file reason => "failed to parse " ++ file.text ++ ": " ++ reason.message
  | .unreadableFile file reason => "failed to read " ++ file.text ++ ": " ++ reason.message

end BufferFormat
