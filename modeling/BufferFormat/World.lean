import BufferFormat.Environment
import BufferFormat.Fault
import BufferFormat.FileSystem
import BufferFormat.Formatter.Outcome

/-!
# The world around a run

What a run can see: the files, the directory it works in, its environment, and what the
executables do. An executable is a function from an invocation to an outcome: it always answers, and
its answer depends on nothing but how it was started. What is to hold for formatters of any other
kind is said with the starts as an argument (`Formatter.Starter`).

Three things are simpler here than in an operating system. No file is protected from being read or
written, unless it is said that the system refuses it. A path may be of any length, as only its
names are limited. And names, arguments and the values of variables are text, while a system admits
bytes that are none.

## Main definitions

* `Invocation`: What an executable is started with.
* `World`: Files, working directory, environment and executables.
* `World.readFile`, `World.readText`, `World.writeFile`: Whole files by path.
* `World.writeFileUnless`: A write that the system may refuse.
-/

namespace BufferFormat

/-- What an executable is started with. -/
structure Invocation where
  /-- The arguments after the name of the executable. -/
  args : List String
  env : Environment
  cwd : Location
  input : List UInt8
  deriving DecidableEq, Repr

/-- What a run can see. -/
structure World where
  files : FileSystem
  cwd : Location
  env : Environment
  /-- What the executable at a location does, which is assumed to depend on the invocation alone;
      `none` for a file that no system can run. -/
  programs : Location → Option (Invocation → Outcome)

namespace World

/-- The working directory as a path. -/
def cwdPath (w : World) : Path :=
  FileSystem.pathOf w.cwd

/-- Whether a path names a file. -/
def isFile (w : World) (p : Path) : Bool :=
  w.files.isFile w.cwd p

/-- Whether a path names a directory. -/
def isDir (w : World) (p : Path) : Bool :=
  w.files.isDir w.cwd p

/-- Whether a text holds a NUL, which no name in the operating system can. -/
def hasNul (s : String) : Bool :=
  s.toList.contains (Char.ofNat 0)

/-- The contents of a file. -/
def readFile (w : World) (p : Path) : Except Fault (List UInt8) :=
  if hasNul p.text then .error .nulInName
  else
    match w.files.read w.cwd p with
    | .ok data => .ok data
    | .error e => .error (.os e)

/-- The contents of a file that must be UTF-8. -/
def readText (w : World) (p : Path) : Except Fault String := do
  match Utf8.decode? (← w.readFile p) with
  | some text => .ok (String.ofList text)
  | none => .error .notUtf8

/-- The world with a file's contents replaced. -/
def writeFile (w : World) (p : Path) (data : List UInt8) : Except Fault World :=
  if hasNul p.text then .error .nulInName
  else
    match w.files.write w.cwd p data with
    | .ok files => .ok { w with files }
    | .error e => .error (.os e)

/-- A replacement of a file's contents that the system may refuse, for a full disk or a lost
    device. A refused replacement leaves the world as it was. -/
def writeFileUnless (w : World) (refusal : Option Fault) (p : Path) (data : List UInt8) :
    Except Fault World :=
  match refusal with
  | some fault => .error fault
  | none => w.writeFile p data

end World

end BufferFormat
