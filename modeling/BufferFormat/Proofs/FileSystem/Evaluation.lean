import BufferFormat.FileSystem

/-!
# Walks that can be carried out

A walk follows links at its own pace: a link puts new pieces in front of the path, and only the
allowance for links becomes smaller. `FileSystem.walkTo` therefore recurses on the allowance and the
pieces together, and a recursion on a pair says what a walk comes to without being able to carry it
out.

`FileSystem.reachBy` is the same walk as two recursions, one inside the other. The inner one goes
down the pieces up to the next link, and the outer one goes down the allowance from link to link.
Both go down their argument, so where a path leads in a world that is given can be computed.

## Main definitions

* `FileSystem.walkUntilLink`: A walk that hands over at the first link.
* `FileSystem.walkBy`: A walk as such walks, one after the other.
* `FileSystem.reachBy`: Where a path leads, in the form that can be computed.

## Theorems

* `FileSystem.walkTo_eq_walkBy`, `FileSystem.reach_eq_reachBy`: Both forms are the same.
* `FileSystem.isFile_eq_reachBy`: Whether a path leads to a file, in the form that can be computed.
-/

namespace BufferFormat

namespace FileSystem

/-- A walk down the pieces. At a link it hands over to `go`, with the location of the link, what the
    link leads to and the pieces that remain. -/
def walkUntilLink (fs : FileSystem)
    (go : Location → Path → List String → Except OsError Location) :
    Location → List String → Except OsError Location
  | loc, [] => .ok loc
  | loc, piece :: rest =>
    match fs.entry? loc with
    | some .dir =>
      if piece.isEmpty || piece == "." then walkUntilLink fs go loc rest
      else if piece == ".." then walkUntilLink fs go loc.dropLast rest
      else if longestName < piece.utf8ByteSize then .error .nameTooLong
      else
        match fs.entry? (loc ++ [piece]) with
        | some (.link target) => go loc target rest
        | some _ => walkUntilLink fs go (loc ++ [piece]) rest
        | none => if rest.isEmpty then .ok (loc ++ [piece]) else .error .notFound
    | some _ => .error .notDirectory
    | none => .error .notFound

/-- A walk from link to link, with `links` of them at most. -/
def walkBy (fs : FileSystem) : Nat → Location → List String → Except OsError Location
  | 0 => walkUntilLink fs fun _ _ _ => .error .tooManyLinks
  | links + 1 => walkUntilLink fs fun loc target rest =>
    if target.text.isEmpty then .error .notFound
    else walkBy fs links (if target.isAbsolute then [] else loc) (pieces target ++ rest)

/-- Where a path leads from a directory. -/
def reachBy (fs : FileSystem) (cwd : Location) (p : Path) : Except OsError Location :=
  if p.text.isEmpty then .error .notFound
  else fs.walkBy mostLinks (if p.isAbsolute then [] else cwd) (pieces p)

/-- A walk that hands over to the walk with one link less is a walk. -/
theorem walkTo_eq_walkUntilLink (fs : FileSystem) (links : Nat)
    {go : Location → Path → List String → Except OsError Location}
    (hgo : ∀ loc target rest, go loc target rest =
      match links with
      | 0 => .error .tooManyLinks
      | links + 1 =>
        if target.text.isEmpty then .error .notFound
        else fs.walkTo links (if target.isAbsolute then [] else loc) (pieces target ++ rest))
    (loc : Location) (rest : List String) :
    fs.walkTo links loc rest = fs.walkUntilLink go loc rest := by
  induction rest generalizing loc with
  | nil => rw [walkTo, walkUntilLink]
  | cons piece rest ih =>
      rw [walkTo, walkUntilLink]
      cases fs.entry? loc with
      | none => rfl
      | some e =>
          cases e with
          | file data executable => rfl
          | link target => rfl
          | dir =>
              -- Only a link makes a difference, and after it both go on with one link less.
              cases fs.entry? (loc ++ [piece]) with
              | none => simp only [ih]
              | some next =>
                  cases next with
                  | file data executable => simp only [ih]
                  | dir => simp only [ih]
                  | link target =>
                      cases links with
                      | zero => simp only [ih, hgo]
                      | succ links => simp only [ih, hgo]

theorem walkTo_eq_walkBy (fs : FileSystem) (links : Nat) (loc : Location) (rest : List String) :
    fs.walkTo links loc rest = fs.walkBy links loc rest := by
  induction links generalizing loc rest with
  | zero => exact walkTo_eq_walkUntilLink fs 0 (fun _ _ _ => rfl) loc rest
  | succ links ih =>
      refine walkTo_eq_walkUntilLink fs (links + 1) (fun l target rest => ?_) loc rest
      simp only [ih]

/-- Where a path leads can be computed. -/
theorem reach_eq_reachBy (fs : FileSystem) (cwd : Location) (p : Path) :
    fs.reach cwd p = fs.reachBy cwd p := by
  simp only [reach, reachBy, walkTo_eq_walkBy]

/-- So can whether it leads to a file. -/
theorem isFile_eq_reachBy (fs : FileSystem) (cwd : Location) (p : Path) :
    fs.isFile cwd p =
      match fs.reachBy cwd p with
      | .ok loc =>
        match fs.entry? loc with
        | some (.file ..) => true
        | _ => false
      | .error _ => false := by
  rw [isFile, resolve, reach_eq_reachBy]
  cases fs.reachBy cwd p with
  | error e => rfl
  | ok loc =>
      simp only [bind, Except.bind]
      cases fs.entry? loc with
      | none => rfl
      | some e => cases e <;> rfl

end FileSystem

end BufferFormat
