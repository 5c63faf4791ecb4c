import BufferFormat.Fault
import BufferFormat.Platform
import BufferFormat.World

/-!
# Starting the formatter

Where an executable is found, and how it is run. On Windows the executable is located before the
start, by the path and the extensions that a shell would try there. Everywhere else the system
searches on its own when the executable is started.

The platform is a tag, and choosing it chooses the steps and nothing else. Paths are written as the
Unix build reads them under each tag: a slash separates names, and a colon the directories of a
search path.

Starting happens in two steps: the working directory of the formatter is entered, then the
executable is looked up from there. Both fail in the same way when something does not exist, and
either failure says that the formatter is unavailable.

## Main definitions

* `Formatter.Request`: Everything needed to run the formatter once.
* `Formatter.workingDir`: The directory the formatter runs in.
* `Formatter.locate`: The executable that is located before the start on Windows.
* `Formatter.prepareLaunch`: What to start, and with which process flags.
* `Formatter.Starter`: What comes of requests.
* `Formatter.start`: The invocation that a request leads to, and its outcome.
-/

namespace BufferFormat

namespace Formatter

/-- Everything needed to run the formatter once. -/
structure Request where
  /-- The executable and its arguments. -/
  args : List String
  env : Environment
  /-- The working directory, if it is not that of this process. -/
  cwd : Option Path
  input : List UInt8
  deriving DecidableEq, Repr

/-- What to start, and with which process flags. -/
structure Launch where
  program : Path
  flags : Option Nat
  deriving DecidableEq, Repr

/-- The directory the formatter runs in: that of the file, else the first folder of the host. The
    formatter looks for its own configuration there. -/
def workingDir (file : Option Path) (folders : List Path) : Option Path :=
  ((file.bind Path.parent?).filter (!·.text.isEmpty)).or folders.head?

/-! ## Locating an executable -/

/-- Extensions that are tried where the environment names none. -/
def defaultExtensions : String := ".COM;.EXE;.BAT;.CMD"

/-- A path with text appended to its last name. -/
def withSuffix (p : Path) (suffix : String) : Path :=
  ⟨p.text ++ suffix⟩

/-- The directories of a search path. They stand between colons, as on Unix, under each platform. -/
def searchDirs (pathVar : String) : List Path :=
  (Text.splitAt ':' pathVar.toList).map fun dir => ⟨String.ofList dir⟩

/-- The directories in which a program is looked for. A program with a directory of its own is
    looked for only there. -/
def dirsFor (program : Path) (pathVar : Option String) : List Path :=
  if 1 < program.components.length then [⟨""⟩]
  else
    match pathVar with
    | some pathVar => searchDirs pathVar
    | none => []

/-- What is tried in one directory: the name as given, then with each extension. -/
def candidatesIn (dir program : Path) (extensions : List String) : List Path :=
  dir.join program :: extensions.map (withSuffix (dir.join program))

/-- The first candidate that is a file, directory by directory. The steps are those for Windows, on
    paths that are written as on Unix. -/
def locate (w : World) (program : Path) (pathVar : Option String) (extensions : List String) :
    Option Path :=
  (dirsFor program pathVar).findSome? fun dir =>
    (candidatesIn dir program extensions).find? w.isFile

/-- The extensions that an environment names. -/
def extensionsOf (env : Environment) : List String :=
  ((Text.splitAt ';' ((env.getIgnoringCase? "PATHEXT").getD defaultExtensions).toList).filter
    (!·.isEmpty)).map String.ofList

/-- What to start for a program. Only Windows needs the executable located beforehand. -/
def prepareLaunch (w : World) (program : String) (env : Environment) (platform : Platform) :
    Except Fault Launch :=
  match platform.launchFlags with
  | none => .ok ⟨⟨program⟩, none⟩
  | some flags =>
    match locate w ⟨program⟩ (env.getIgnoringCase? "PATH") (extensionsOf env) with
    | some path => .ok ⟨path, some flags⟩
    | none => .error (.toolUnavailable program "not found on PATH")

/-! ## Starting it -/

/-- Whether some text of a start holds a NUL. -/
def anyNul (program : Path) (args : List String) (r : Request) : Bool :=
  World.hasNul program.text || args.any World.hasNul || r.cwd.any (World.hasNul ·.text) ||
    r.env.entries.any fun e => World.hasNul e.1 || World.hasNul e.2

/-- The directory to enter before the start. -/
def enter (w : World) : Option Path → Except OsError Location
  | none => .ok w.cwd
  | some dir => do
    match ← w.files.resolve w.cwd dir with
    | (loc, .dir) => .ok loc
    | _ => .error .notDirectory

/-- The executable at a path, as seen from a directory. -/
def executableAt (fs : FileSystem) (cwd : Location) (p : Path) : Except OsError Location := do
  match ← fs.resolve cwd p with
  | (loc, .file _ true) => .ok loc
  | _ => .error .permissionDenied

/-- Where a program without a directory is looked for when the environment has no search path. -/
def systemPath : String := "/bin:/usr/bin"

/-- Try the directories of a search path in order. A candidate that may not be run is remembered:
    its error is reported if no other candidate can be started. -/
def searchIn (fs : FileSystem) (cwd : Location) (program : Path) :
    List Path → OsError → Bool → Except OsError Location
  | [], last, refused => .error (if refused then .permissionDenied else last)
  | dir :: dirs, _, refused =>
    match executableAt fs cwd (dir.join program) with
    | .ok loc => .ok loc
    | .error .permissionDenied => searchIn fs cwd program dirs .permissionDenied true
    | .error .notFound => searchIn fs cwd program dirs .notFound refused
    | .error .notDirectory => searchIn fs cwd program dirs .notDirectory refused
    | .error e => .error e

/-- The executable of a program, as seen from the directory that the formatter runs in. -/
def findExecutable (fs : FileSystem) (cwd : Location) (program : Path) (env : Environment) :
    Except OsError Location :=
  if program.text.isEmpty then .error .notFound
  else if program.text.toList.contains '/' then executableAt fs cwd program
  else searchIn fs cwd program (searchDirs ((env.get? "PATH").getD systemPath)) .notFound false

/-- Enter the working directory, find the executable and see what it does. -/
def spawn (w : World) (launch : Launch) (args : List String) (r : Request) :
    Except OsError (Invocation × Outcome) := do
  let cwd ← enter w r.cwd
  let loc ← findExecutable w.files cwd launch.program r.env
  match w.programs loc with
  | none => .error .badExecutable
  | some run =>
    let invocation : Invocation := ⟨args, r.env, cwd, r.input⟩
    .ok (invocation, run invocation)

/-- A failed start. What does not exist makes the formatter unavailable; everything else is an
    ordinary failure. -/
def startFault (program : String) : OsError → Fault
  | .notFound => .toolUnavailable program OsError.notFound.message
  | e => .during ("failed to start `" ++ program ++ "`") (.os e)

/-- What comes of requests: an invocation with its outcome, or a fault where the formatter was not
    started or could not be heard out. -/
abbrev Starter := Request → Except Fault (Invocation × Outcome)

/-- Run the formatter once. -/
def start (w : World) (r : Request) (platform : Platform) : Except Fault (Invocation × Outcome) :=
  match r.args with
  | [] => .error .emptyCommandLine
  | program :: args => do
    let launch ← prepareLaunch w program r.env platform
    if anyNul launch.program args r then
      .error (.during ("failed to start `" ++ program ++ "`") .nulByte)
    else
      match spawn w launch args r with
      | .ok result => .ok result
      | .error e => .error (startFault program e)

end Formatter

end BufferFormat
