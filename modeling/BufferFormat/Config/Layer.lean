import BufferFormat.Config.Settings
import BufferFormat.Warning
import BufferFormat.World

/-!
# Layers of configuration

A configuration is put together from files, the most specific last: first the file in the user's
home directory, then those in the directories from the root down to the one of the buffer. What a
file does not set is left to the files before it. A file of a project may not choose the executable,
as a project is not trusted to run programs, and a file that cannot be used is passed over with a
warning.

## Main definitions

* `Layer`: Whose file it is.
* `ConfigFile.discover`: The files for a path, least specific first.
* `Config.addLayer`: A configuration changed by one file.
* `Config.ofFile`: The configuration of a single trusted file.
* `Config.discovered`: The configuration of all files for a path.
-/

namespace BufferFormat

/-- Whose file it is. -/
inductive Layer where
  /-- The user's. -/
  | global
  /-- The project's. -/
  | project
  deriving DecidableEq, Repr

/-- A file that belongs to a layer. -/
structure ConfigFile where
  path : Path
  layer : Layer
  deriving DecidableEq, Repr

namespace ConfigFile

/-- The name of configuration files. -/
def fileName : Path :=
  ⟨"blackpipe.toml"⟩

/-- The user's home directory. -/
def home? (env : Environment) : Option Path :=
  (env.get? "HOME" <|> env.get? "USERPROFILE").map Path.mk

/-- The file in the home directory, if there is one. -/
def inHome (w : World) : List ConfigFile :=
  ((home? w.env).map (·.join fileName)).toList.filter w.isFile |>.map (⟨·, .global⟩)

/-- The directory from which files are looked for: that of a file, a directory itself, and the
    working directory for a path that is neither. -/
def startDir? (w : World) (start : Path) : Option Path :=
  let start := if start.text.isEmpty then start else Path.absoluteFrom w.cwdPath start
  if w.isFile start then start.parent?
  else if w.isDir start then some start
  else some w.cwdPath

/-- Add a project's file, unless it is there already. -/
def add (w : World) (files : List ConfigFile) (path : Path) : List ConfigFile :=
  if w.isFile path && !files.any (·.path.same path) then files ++ [⟨path, .project⟩] else files

/-- The files for a path, least specific first. -/
def discover (w : World) (start : Path) : List ConfigFile :=
  let dirs := ((startDir? w start).map Path.ancestors).getD []
  (dirs.reverse.map (·.join fileName)).foldl (add w) (inHome w)

end ConfigFile

/-- The settings that a file makes. -/
def Settings.read (w : World) (path : Path) : Except Fault Settings := do
  match parse? (← w.readText path) with
  | some settings => return settings
  | none => throw .badDocument

namespace Config

/-- The settings of a file that count in its layer. -/
def trusted (settings : Settings) : Layer → Settings
  | .global => settings
  | .project => { settings with command := none }

/-- What there is to say about the settings of a file. -/
def layerWarnings (settings : Settings) : Layer → List Warning
  | .global => []
  | .project => (settings.command.map Warning.ignoredCommand).toList

/-- What there is to say about a file that could not be used. -/
def unusable (path : Path) : Fault → Warning
  | .badDocument => .unusableFile path .badDocument
  | fault => .unreadableFile path fault

/-- A configuration changed by one file, with what there is to say about it. -/
def addLayer (w : World) (config : Config) (file : ConfigFile) : Config × List Warning :=
  match Settings.read w file.path with
  | .ok settings =>
    ((trusted settings file.layer).applyTo config, layerWarnings settings file.layer)
  | .error fault => (config, [unusable file.path fault])

/-- The configuration of all files for a path, with what there is to say about them. -/
def discovered (w : World) (start : Path) : Config × List Warning :=
  (ConfigFile.discover w start).foldl
    (fun (config, warnings) file =>
      let (config, more) := addLayer w config file
      (config, warnings ++ more))
    ({}, [])

/-- The configuration of a single trusted file. -/
def ofFile (w : World) (path : Path) : Except Fault Config :=
  (Settings.read w path).map (·.applyTo {})

end Config

end BufferFormat
