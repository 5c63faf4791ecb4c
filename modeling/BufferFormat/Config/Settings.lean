import BufferFormat.Config
import BufferFormat.Toml.Document

/-!
# Settings of a document

What one configuration document says. It need not say everything: settings that it leaves out keep
the value they have. A setting with a value of the wrong kind makes the document unusable, and names
that are no settings do not matter.

## Main definitions

* `Settings`: The settings that a document makes.
* `Settings.ofTable?`, `Settings.parse?`: Reading them.
* `Settings.applyTo`: Changing a configuration by them.
* `Config.parse?`: A document read as a whole configuration.
-/

namespace BufferFormat

/-- The markers that a document sets. -/
structure MarkerSettings where
  reformatted : Option String := none
  unchanged : Option String := none
  deriving DecidableEq, Repr

/-- The settings that a document makes. -/
structure Settings where
  command : Option String := none
  lineLength : Option UInt32 := none
  fast : Option Bool := none
  skipStringNormalization : Option Bool := none
  includePattern : Option String := none
  excludePattern : Option String := none
  py36 : Option Bool := none
  defaultEncoding : Option String := none
  debug : Option Bool := none
  markers : MarkerSettings := {}
  deriving DecidableEq, Repr

namespace Settings

/-- The text of a value that is one. -/
def string? : Toml.Value → Option String
  | .string s => some s
  | _ => none

/-- The truth of a value that is one. -/
def boolean? : Toml.Value → Option Bool
  | .boolean b => some b
  | _ => none

/-- A whole number of 32 bits. -/
def word? : Toml.Value → Option UInt32
  | .integer i => if 0 ≤ i && i.toNat < UInt32.size then some (UInt32.ofNat i.toNat) else none
  | _ => none

/-- The setting of a name: nothing is set where the name is missing, and nothing is read where its
    value is of the wrong kind. -/
def setting? {α : Type} (read : Toml.Value → Option α) (entries : Toml.Entries) (name : String) :
    Option (Option α) :=
  match entries.lookup name with
  | none => some none
  | some value => (read value).map some

/-- The markers that a value sets. An array sets both by position and may hold more, and a date
    sets neither. -/
def markers? : Toml.Value → Option MarkerSettings
  | .table _ entries => do
    let reformatted ← setting? string? entries "reformatted"
    let unchanged ← setting? string? entries "unchanged"
    return { reformatted, unchanged }
  | .array (first :: second :: _) => do
    let reformatted ← string? first
    let unchanged ← string? second
    return { reformatted := some reformatted, unchanged := some unchanged }
  | .datetime _ => some {}
  | _ => none

/-- The settings that the entries of a document make. -/
def ofTable? (entries : Toml.Entries) : Option Settings := do
  let command ← setting? string? entries "command"
  let lineLength ← setting? word? entries "line_length"
  let fast ← setting? boolean? entries "fast"
  let skipStringNormalization ← setting? boolean? entries "skip_string_normalization"
  let includePattern ← setting? string? entries "include"
  let excludePattern ← setting? string? entries "exclude"
  let py36 ← setting? boolean? entries "py36"
  let defaultEncoding ← setting? string? entries "default_encoding"
  let debug ← setting? boolean? entries "debug"
  let markers ← setting? markers? entries "markers"
  return {
    command, lineLength, fast, skipStringNormalization, includePattern, excludePattern, py36,
    defaultEncoding, debug, markers := markers.getD {} }

/-- The settings of a document. -/
def parse? (text : String) : Option Settings :=
  (Toml.parse? text).bind ofTable?

/-- A configuration changed by what a document sets. -/
def applyTo (settings : Settings) (config : Config) : Config where
  command := settings.command.getD config.command
  lineLength := settings.lineLength <|> config.lineLength
  fast := settings.fast.getD config.fast
  skipStringNormalization :=
    settings.skipStringNormalization.getD config.skipStringNormalization
  includePattern := settings.includePattern <|> config.includePattern
  excludePattern := settings.excludePattern <|> config.excludePattern
  py36 := settings.py36.getD config.py36
  defaultEncoding := settings.defaultEncoding.getD config.defaultEncoding
  debug := settings.debug.getD config.debug
  markers := {
    reformatted := settings.markers.reformatted.getD config.markers.reformatted
    unchanged := settings.markers.unchanged.getD config.markers.unchanged }

end Settings

namespace Config

/-- The markers that a value describes. What it leaves out has its default, also at the end of an
    array. -/
def markers? : Toml.Value → Option Markers
  | .table _ entries => do
    let reformatted ← Settings.setting? Settings.string? entries "reformatted"
    let unchanged ← Settings.setting? Settings.string? entries "unchanged"
    let defaults : Markers := {}
    return {
      reformatted := reformatted.getD defaults.reformatted
      unchanged := unchanged.getD defaults.unchanged }
  | .array [] => some {}
  | .array [first] => do
    let reformatted ← Settings.string? first
    return { reformatted }
  | .array (first :: second :: _) => do
    let reformatted ← Settings.string? first
    let unchanged ← Settings.string? second
    return { reformatted, unchanged }
  | .datetime _ => some {}
  | _ => none

/-- The value of a name, or a default where the name is missing. -/
def valueOr? {α : Type} (read : Toml.Value → Option α) (entries : Toml.Entries) (name : String)
    (default : α) : Option α :=
  match entries.lookup name with
  | none => some default
  | some value => read value

/-- The whole configuration that the entries of a document describe. -/
def ofTable? (entries : Toml.Entries) : Option Config := do
  let defaults : Config := {}
  let command ← valueOr? Settings.string? entries "command" defaults.command
  let lineLength ← Settings.setting? Settings.word? entries "line_length"
  let fast ← valueOr? Settings.boolean? entries "fast" defaults.fast
  let skipStringNormalization ←
    valueOr? Settings.boolean? entries "skip_string_normalization" defaults.skipStringNormalization
  let includePattern ← Settings.setting? Settings.string? entries "include"
  let excludePattern ← Settings.setting? Settings.string? entries "exclude"
  let py36 ← valueOr? Settings.boolean? entries "py36" defaults.py36
  let defaultEncoding ←
    valueOr? Settings.string? entries "default_encoding" defaults.defaultEncoding
  let debug ← valueOr? Settings.boolean? entries "debug" defaults.debug
  let markers ← valueOr? markers? entries "markers" defaults.markers
  return {
    command, lineLength, fast, skipStringNormalization, includePattern, excludePattern, py36,
    defaultEncoding, debug, markers }

/-- A document read as a whole configuration. -/
def parse? (text : String) : Option Config :=
  (Toml.parse? text).bind ofTable?

end Config

end BufferFormat
