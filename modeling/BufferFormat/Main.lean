import BufferFormat.Program

/-!
# The executable

Runs the program on the command line of the process. The files that a run can ask for by name are
read beforehand: those on the command line, and every configuration file that may apply to them. No
process can be started from here, so the formatter counts as missing: a program that can start one
passes its own `World` to `runProgramUnder`.
-/

namespace BufferFormat

namespace Executable

/-- The variables that a run looks at. -/
def variableNames : List String :=
  Locale.variableNames ++ ["HOME", "USERPROFILE", "PATH", "PATHEXT"]

/-- Those variables that are set. -/
def readEnvironment : IO Environment := do
  let found ← variableNames.filterMapM fun name => do
    return (← IO.getEnv name).map fun value => (name, value)
  return Environment.ofList found

/-- The contents of a file, if it can be read. -/
def read? (path : Path) : IO (Option (List UInt8)) := do
  try
    let data ← IO.FS.readBinFile path.text
    return some data.toList
  catch _ => return none

/-- The location of an absolute path. -/
def locationOf (path : Path) : Location :=
  path.components.foldl
    (fun loc component =>
      match component with
      | .name n => loc ++ [n]
      | .up => loc.dropLast
      | _ => loc)
    []

/-- The configuration files that may apply to a path. -/
def configFilesFor (path : Path) : List Path :=
  path.ancestors.map (·.join ConfigFile.fileName)

/-- The paths that a run can ask for by name. -/
def wanted (cwd : Path) (env : Environment) (line : CommandLine) : List Path :=
  let named := (line.inputs ++ line.config.toList).map (Path.absoluteFrom cwd)
  let homes := ((ConfigFile.home? env).map (·.join ConfigFile.fileName)).toList
  named ++ (cwd :: named).flatMap configFilesFor ++ homes.map (Path.absoluteFrom cwd)

/-- The files of a run. -/
def readFiles (cwd : Path) (env : Environment) (line : CommandLine) : IO FileSystem := do
  (wanted cwd env line).foldlM
    (fun fs path => do
      match ← read? path with
      | some data => return fs.place (locationOf path) (.file data false)
      | none => return fs)
    (FileSystem.place ⟨[]⟩ (locationOf cwd) .dir)

/-- Standard input, as far as it is needed. A terminal is not read where nothing was named. -/
def readInput (line : Option CommandLine) : IO StandardInput := do
  let stdin ← IO.getStdin
  let terminal ← stdin.isTty
  let wanted := line.any fun line => line.readsStdin && !line.onlyExplains { terminal }
  let bytes ← if wanted then do pure (← stdin.readBinToEnd).toList else pure []
  return { bytes, terminal }

/-- Print what a run printed. -/
def print (effects : Effects) : IO Unit := do
  let out ← IO.getStdout
  out.write ⟨effects.stdout.toArray⟩
  out.flush
  IO.eprint effects.stderr

end Executable

end BufferFormat

open BufferFormat

/-- Run the program. -/
def main (args : List String) : IO UInt32 := do
  let argv := ownName :: args
  let line := (CommandLine.parse argv).toOption
  let env ← Executable.readEnvironment
  let cwd : Path := ⟨toString (← IO.currentDir)⟩
  let files ← Executable.readFiles cwd env (line.getD {})
  let input ← Executable.readInput line
  let w : World := ⟨files, Executable.locationOf cwd, env, fun _ => none⟩
  let done := runProgramUnder Batch.oneByOne .unix w argv input
  Executable.print done.effects
  return UInt32.ofNat done.status
