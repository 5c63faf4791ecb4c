import BufferFormat.OsError

/-!
# Faults

Everything that can stop an operation. A formatter that ran and refused its input is no fault; it
is an outcome like any other.

## Main definitions

* `Fault`: The causes, and the activity during which one arose.
* `Fault.message`: The text, outermost activity first.
* `Fault.cause`: What lies below the activities.
-/

namespace BufferFormat

/-- Why an operation stopped. -/
inductive Fault where
  /-- The formatter is missing or cannot be found. -/
  | toolUnavailable (command reason : String)
  /-- No encoding has this label. -/
  | unknownEncoding (label : String)
  /-- The buffer holds a character outside the encoding of this label. -/
  | unencodable (label : String)
  /-- The formatter printed bytes that are malformed in the encoding of this label. -/
  | undecodable (label : String)
  | os (e : OsError)
  /-- A file to be read as text is not UTF-8. -/
  | notUtf8
  /-- An argument, variable or directory for a new process holds a NUL. -/
  | nulByte
  /-- The name of a file holds a NUL. -/
  | nulInName
  /-- A configuration document is malformed or holds a value of the wrong kind. -/
  | badDocument
  | emptyCommandLine
  /-- A resolved configuration is not usable. -/
  | invalidConfig (reason : String)
  /-- Something stopped an activity. -/
  | during (activity : String) (cause : Fault)
  deriving DecidableEq, Repr

namespace Fault

/-- The text of a fault, outermost activity first. -/
def message : Fault → String
  | .toolUnavailable command reason =>
    "could not run `" ++ command ++ "`: " ++ reason ++
      ". You may need to install the formatter and/or configure its command path " ++
      "(`command` in blackpipe.toml or --black-command)."
  | .unknownEncoding label => "unknown encoding: " ++ label
  | .unencodable label => "buffer contains characters that cannot be encoded as " ++ label
  | .undecodable label => "formatter output is not valid " ++ label
  | .os e => e.message
  | .notUtf8 => "stream did not contain valid UTF-8"
  | .nulByte => "nul byte found in provided data"
  | .nulInName => "file name contained an unexpected NUL byte"
  | .badDocument => "TOML parse error"
  | .emptyCommandLine => "formatter command line is empty"
  | .invalidConfig reason => "Invalid configuration: " ++ reason
  | .during activity cause => activity ++ ": " ++ cause.message

/-- The fault below all activities. -/
def cause : Fault → Fault
  | .during _ cause => cause.cause
  | fault => fault

/-- Whether the formatter could not be found. -/
def isToolUnavailable (fault : Fault) : Bool :=
  match fault.cause with
  | .toolUnavailable .. => true
  | _ => false

end Fault

end BufferFormat
