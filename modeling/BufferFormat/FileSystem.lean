import BufferFormat.OsError
import BufferFormat.Path

/-!
# File systems

A file system is a value: an entry for each location below the root. A location is where a path
leads after every symbolic link is followed. Hard links are assumed not to exist, so that two paths
name the same file exactly when they resolve to the same location.

Resolving goes piece by piece, as the operating system does it: a piece may only follow a
directory, a double dot leads to the directory that holds the current one, and a link puts its
target in front of what remains. At most forty links are followed.

## Main definitions

* `Location`, `Entry`, `FileSystem`: Where things are, and what they are.
* `FileSystem.resolve`: Where a path leads.
* `FileSystem.isFile`, `FileSystem.isDir`: What a path names.
* `FileSystem.read`, `FileSystem.write`: Whole files.
* `FileSystem.place`: An entry and the directories above it.
-/

namespace BufferFormat

/-- The names that lead from the root to an entry. -/
abbrev Location := List String

/-- What can stand at a location. -/
inductive Entry where
  | file (data : List UInt8) (executable : Bool)
  | dir
  | link (target : Path)
  deriving DecidableEq, Repr

/-- The entries below the root, which is a directory. Of two entries at one location the first
    counts. -/
structure FileSystem where
  entries : List (Location × Entry)
  deriving DecidableEq, Repr

namespace FileSystem

/-- The entry at a location. -/
def entry? (fs : FileSystem) (loc : Location) : Option Entry :=
  if loc = [] then some .dir else fs.entries.lookup loc

/-- The longest name a directory can hold, in bytes. -/
def longestName : Nat := 255

/-- The most links that are followed on one way. -/
def mostLinks : Nat := 40

/-- The pieces of a path between separators. -/
def pieces (p : Path) : List String :=
  (Text.splitAt '/' p.text.toList).map String.ofList

/-- Where the pieces lead, starting at `loc`, with `links` links still to be followed at most. A
    last name that does not exist gives the location where it would stand. -/
def walkTo (fs : FileSystem) (links : Nat) (loc : Location) (rest : List String) :
    Except OsError Location :=
  match rest with
  | [] => .ok loc
  | piece :: rest =>
    match fs.entry? loc with
    | some .dir =>
      if piece.isEmpty || piece == "." then walkTo fs links loc rest
      else if piece == ".." then walkTo fs links loc.dropLast rest
      else if longestName < piece.utf8ByteSize then .error .nameTooLong
      else
        match fs.entry? (loc ++ [piece]) with
        | some (.link target) =>
          match links with
          | 0 => .error .tooManyLinks
          | links + 1 =>
            if target.text.isEmpty then .error .notFound
            else
              walkTo fs links (if target.isAbsolute then [] else loc) (pieces target ++ rest)
        | some _ => walkTo fs links (loc ++ [piece]) rest
        | none => if rest.isEmpty then .ok (loc ++ [piece]) else .error .notFound
    | some _ => .error .notDirectory
    | none => .error .notFound
  termination_by (links, rest.length)

/-- Where a path leads from a directory, if everything before its last name exists. -/
def reach (fs : FileSystem) (cwd : Location) (p : Path) : Except OsError Location :=
  if p.text.isEmpty then .error .notFound
  else fs.walkTo mostLinks (if p.isAbsolute then [] else cwd) (pieces p)

/-- Where an existing path leads from a directory. -/
def resolve (fs : FileSystem) (cwd : Location) (p : Path) : Except OsError (Location × Entry) := do
  let loc ← fs.reach cwd p
  match fs.entry? loc with
  | some e => .ok (loc, e)
  | none => .error .notFound

/-- Whether a path names a file. -/
def isFile (fs : FileSystem) (cwd : Location) (p : Path) : Bool :=
  match fs.resolve cwd p with
  | .ok (_, .file ..) => true
  | _ => false

/-- Whether a path names a directory. -/
def isDir (fs : FileSystem) (cwd : Location) (p : Path) : Bool :=
  match fs.resolve cwd p with
  | .ok (_, .dir) => true
  | _ => false

/-- The contents of a file. -/
def read (fs : FileSystem) (cwd : Location) (p : Path) : Except OsError (List UInt8) := do
  match ← fs.resolve cwd p with
  | (_, .file data _) => .ok data
  | (_, .dir) => .error .isDirectory
  | (_, .link _) => .error .tooManyLinks

/-- Replace or add the entry at a location. -/
def setEntry (loc : Location) (e : Entry) :
    List (Location × Entry) → List (Location × Entry)
  | [] => [(loc, e)]
  | (l, old) :: rest => if l = loc then (loc, e) :: rest else (l, old) :: setEntry loc e rest

/-- Add an entry, with those directories above it that are missing. -/
def place (fs : FileSystem) (loc : Location) (e : Entry) : FileSystem :=
  let above := ((List.range loc.length).map loc.take).filter fun dir => (fs.entry? dir).isNone
  ⟨setEntry loc e (fs.entries ++ above.map (·, .dir))⟩

/-- Replace the contents of a file, or make a new one in an existing directory. -/
def write (fs : FileSystem) (cwd : Location) (p : Path) (data : List UInt8) :
    Except OsError FileSystem := do
  let loc ← fs.reach cwd p
  match fs.entry? loc with
  | some (.file _ executable) => .ok ⟨setEntry loc (.file data executable) fs.entries⟩
  | some .dir => .error .isDirectory
  | some (.link _) => .error .tooManyLinks
  | none => .ok ⟨setEntry loc (.file data false) fs.entries⟩

/-- The names in a directory, in the order of the entries. -/
def namesIn (fs : FileSystem) (loc : Location) : List String :=
  fs.entries.filterMap fun e =>
    match e.1.getLast? with
    | some name => if e.1.dropLast = loc then some name else none
    | none => none

/-- The path of a location. -/
def pathOf (loc : Location) : Path :=
  ⟨"/" ++ String.intercalate "/" loc⟩

end FileSystem

end BufferFormat
