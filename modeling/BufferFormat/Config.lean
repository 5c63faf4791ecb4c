import BufferFormat.Encoding.Codec

/-!
# Configuration

The settings that one run of the formatter is made with.

## Main definitions

* `Markers`: The words by which the formatter's messages are told apart.
* `Config`: All settings, with their defaults.
* `Config.defect?`: What makes a configuration unusable.
-/

namespace BufferFormat

/-- The words that the formatter prints after a successful run. -/
structure Markers where
  reformatted : String := "reformatted"
  unchanged : String := "unchanged"
  deriving DecidableEq, Repr

/-- The settings of a run. -/
structure Config where
  /-- The formatter's executable. -/
  command : String := "black"
  /-- The line length to format to, if not the formatter's own. -/
  lineLength : Option UInt32 := none
  /-- Skip the formatter's safety checks. -/
  fast : Bool := false
  /-- Leave string quotes alone. -/
  skipStringNormalization : Bool := false
  /-- Pattern of the files to format. -/
  includePattern : Option String := none
  /-- Pattern of the files to leave out. -/
  excludePattern : Option String := none
  /-- Use syntax of Python 3.6. -/
  py36 : Bool := false
  /-- The encoding of buffers that declare none. -/
  defaultEncoding : String := "utf-8"
  debug : Bool := false
  markers : Markers := {}
  deriving DecidableEq, Repr

namespace Config

/-- Why a configuration cannot be used. -/
inductive Defect where
  | blankCommand
  | zeroLineLength
  | emptyMarker
  | equalMarkers
  | unknownEncoding (label : String)
  deriving DecidableEq, Repr

/-- What a defect says. -/
def Defect.message : Defect → String
  | .blankCommand => "command must not be empty"
  | .zeroLineLength => "line_length must be at least 1"
  | .emptyMarker => "status markers must not be empty"
  | .equalMarkers => "status markers must differ"
  | .unknownEncoding label => "default_encoding " ++ label ++ " is not a known encoding"

/-- Whether an encoding has this label. -/
def isKnownEncoding (label : String) : Bool :=
  match Encoding.lookup label with
  | .ok _ => true
  | .error _ => false

/-- The first defect of a configuration. -/
def defect? (config : Config) : Option Defect :=
  if (Text.trim config.command).isEmpty then some .blankCommand
  else if config.lineLength = some 0 then some .zeroLineLength
  else if config.markers.reformatted.isEmpty || config.markers.unchanged.isEmpty then
    some .emptyMarker
  else if config.markers.reformatted = config.markers.unchanged then some .equalMarkers
  else if !isKnownEncoding config.defaultEncoding then
    some (.unknownEncoding config.defaultEncoding)
  else none

end Config

end BufferFormat
