import BufferFormat.CommandLine.Basic
import BufferFormat.World

/-!
# Files of a batch

Which files a command line names. A file that is named is taken as it is; of a directory only the
files with Python's extensions are taken. Links are followed, except to a directory that the walk is
already inside of, which would never end.

## Main definitions

* `isPython`: Files that a walk takes.
* `World.filesBelow`: The files of a directory.
* `World.collect`: The files that a command line names.
-/

namespace BufferFormat

/-- The extensions of Python's files. -/
def pythonExtensions : List String := ["py", "pyi"]

/-- Whether a path has one of Python's extensions. -/
def isPython (p : Path) : Bool :=
  match p.extension? with
  | some extension => pythonExtensions.contains extension
  | none => false

/-- How deep a walk goes below a directory. -/
def CommandLine.walkDepth (line : CommandLine) : Nat :=
  if line.recursive then 256 else 1

namespace World

/-- Whether an entry of a directory is a link. -/
def isLink (w : World) (loc : Location) (name : String) : Bool :=
  match w.files.entry? (loc ++ [name]) with
  | some (.link _) => true
  | _ => false

/-- Python's files at most `depth` levels below the directory at a location, which is shown as
    `dir`. The walk came through the directories `above`. -/
def filesBelow (w : World) : Nat → List Location → Location → Path → List Path
  | 0, _, _, _ => []
  | depth + 1, above, loc, dir =>
    (w.files.namesIn loc).flatMap fun name =>
      let path := dir.join ⟨name⟩
      match w.files.resolve loc ⟨name⟩ with
      | .ok (_, .file ..) => if isPython path then [path] else []
      | .ok (below, .dir) =>
        if w.isLink loc name && (loc :: above).contains below then []
        else filesBelow w depth (loc :: above) below path
      | _ => []

/-- The files that an argument names, or `none` if it names nothing. -/
def filesOf? (w : World) (depth : Nat) (input : Path) : Option (List Path) :=
  match w.files.resolve w.cwd input with
  | .ok (_, .file ..) => some [input]
  | .ok (loc, .dir) => some (w.filesBelow depth [] loc input)
  | _ => none

/-- The files that a command line names, in its order. -/
def collect (w : World) (line : CommandLine) : List Path :=
  line.inputs.flatMap fun input => (w.filesOf? line.walkDepth input).getD []

/-- The arguments that name nothing. -/
def missing (w : World) (line : CommandLine) : List Path :=
  line.inputs.filter fun input => (w.filesOf? line.walkDepth input).isNone

end World

end BufferFormat
