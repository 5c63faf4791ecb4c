import BufferFormat.Formatter.Launch
import BufferFormat.Proofs.FileSystem.Evaluation
import BufferFormat.Proofs.Text.Split

/-!
# The search for an executable

Where the platform is tagged as Windows, a program is looked for as a shell does it there: directory
by directory, and in each of them the name as given is tried before the extensions. So there is an
order of all candidates, in which the directory counts more than the extension: a file with the last
extension in the first directory is found before one with the first extension in the second. `Place`
is a position in this order, and the search finds the file whose place is before those of all
others.

Which directories and extensions there are is written in two variables, as pieces between
separators, and every text is pieces between separators in one way only, which is what `Text.Pieces`
says. A variable counts under any letter case, and of several that differ in nothing else the first
one counts. The tag chooses the search and not how paths are written, so that directories stand
between colons and names between slashes, as on Unix.

## Main definitions

* `Text.Pieces`: What a text is between its separators.
* `Environment.FirstNamed`: The first variable of a name, under any letter case.
* `Formatter.Place`, `Formatter.Place.Before`: The order of the candidates.
* `Formatter.candidateAt?`: The candidate at a place.
* `Formatter.FirstFile`: The first candidate that is a file.
* `Formatter.Searches`: What a search finds, and where it looks.
* `Formatter.LaunchesFound`: What is started on Windows.

## Theorems

* `Environment.getIgnoringCase?_eq_some_iff`: The variable that counts.
* `Formatter.firstFile_of_locate`: What is found has a place before which there is no file.
* `Formatter.locate_eq_some_iff`, `Formatter.locate_eq_none_iff`: What is found, and when nothing
  is.
* `Formatter.dirsFor_of_le_one`: The directories that a variable names.
* `Formatter.extensionsOf_of_pathext`: The extensions that a variable names.
* `Formatter.searches_and_launchesFound`: The search, and the start of what it finds.
-/

namespace BufferFormat

/-! ## Pieces of a text -/

namespace Text

/-- The pieces of a text between its separators. -/
structure Pieces (sep : Char) (text : String) (pieces : List String) : Prop where
  ne_nil : pieces ≠ []
  separated : ∀ piece ∈ pieces, sep ∉ piece.toList
  joined : joinWith sep (pieces.map String.toList) = text.toList

/-- Every text has pieces. -/
theorem pieces_splitAt (sep : Char) (text : String) :
    Pieces sep text ((splitAt sep text.toList).map String.ofList) where
  ne_nil := by
    rw [Ne, List.map_eq_nil_iff]
    exact splitAt_ne_nil sep text.toList
  separated := by
    intro piece hpiece
    rcases List.mem_map.mp hpiece with ⟨cs, hcs, rfl⟩
    rw [String.toList_ofList]
    exact not_mem_of_mem_splitAt hcs
  joined := by
    simp only [List.map_map, Function.comp_def, String.toList_ofList, List.map_id']
    exact joinWith_splitAt sep text.toList

/-- There is only one way to have pieces. -/
theorem Pieces.splitAt_eq {sep : Char} {text : String} {pieces : List String}
    (h : Pieces sep text pieces) : splitAt sep text.toList = pieces.map String.toList := by
  rw [← h.joined]
  refine splitAt_joinWith ?_ ?_
  · rw [Ne, List.map_eq_nil_iff]
    exact h.ne_nil
  · intro cs hcs
    rcases List.mem_map.mp hcs with ⟨piece, hpiece, rfl⟩
    exact h.separated piece hpiece

end Text

/-! ## Variables under any letter case -/

namespace Environment

/-- The first variable of a name, under any letter case. -/
def FirstNamed (env : Environment) (name value : String) : Prop :=
  ∃ before spelled after, env.entries = before ++ (spelled, value) :: after ∧
    sameIgnoringCase spelled name = true ∧
    ∀ entry ∈ before, sameIgnoringCase entry.1 name = false

variable (env : Environment) (name : String)

/-- The variable that counts is the first one. -/
theorem getIgnoringCase?_eq_some_iff (value : String) :
    env.getIgnoringCase? name = some value ↔ env.FirstNamed name value := by
  rw [getIgnoringCase?, Option.map_eq_some_iff]
  constructor
  · rintro ⟨⟨spelled, _⟩, hfound, rfl⟩
    rcases List.find?_eq_some_iff_append.mp hfound with ⟨hname, before, after, hentries, hbefore⟩
    refine ⟨before, spelled, after, hentries, hname, fun entry hentry => ?_⟩
    have hnot := hbefore entry hentry
    rw [Bool.not_eq_true'] at hnot
    exact hnot
  · rintro ⟨before, spelled, after, hentries, hname, hbefore⟩
    refine ⟨(spelled, value), List.find?_eq_some_iff_append.mpr ?_, rfl⟩
    refine ⟨hname, before, after, hentries, fun entry hentry => ?_⟩
    rw [Bool.not_eq_true']
    exact hbefore entry hentry

theorem getIgnoringCase?_eq_none_iff :
    env.getIgnoringCase? name = none ↔
      ∀ entry ∈ env.entries, sameIgnoringCase entry.1 name = false := by
  simp only [getIgnoringCase?, Option.map_eq_none_iff, List.find?_eq_none, Bool.not_eq_true]

end Environment

namespace Formatter

/-! ## The order of the candidates -/

/-- A place in a search: the number of the directory, and that of the name in it. -/
structure Place where
  dir : Nat
  suffix : Nat
  deriving DecidableEq, Repr

/-- The directory counts more than the name. -/
def Place.Before (place place' : Place) : Prop :=
  place.dir < place'.dir ∨ place.dir = place'.dir ∧ place.suffix < place'.suffix

/-- Of two different places one is before the other. -/
theorem Place.before_or_eq_or_before (place place' : Place) :
    place.Before place' ∨ place = place' ∨ place'.Before place := by
  cases place
  cases place'
  simp only [Before, Place.mk.injEq]
  omega

/-- The candidate at a place: the name as given for the first place in a directory, and with an
    extension behind it for the others. -/
def candidateAt? (program : Path) (pathVar : Option String) (extensions : List String)
    (place : Place) : Option Path := do
  let dir ← (dirsFor program pathVar)[place.dir]?
  let suffix ← ("" :: extensions)[place.suffix]?
  return withSuffix (dir.join program) suffix

/-- The first candidate that is a file. -/
def FirstFile (w : World) (program : Path) (pathVar : Option String) (extensions : List String)
    (path : Path) : Prop :=
  ∃ place, candidateAt? program pathVar extensions place = some path ∧ w.isFile path = true ∧
    ∀ earlier candidate, earlier.Before place →
      candidateAt? program pathVar extensions earlier = some candidate → w.isFile candidate = false

section Search

variable (w : World) (program : Path) (pathVar : Option String) (extensions : List String)

/-- What is tried in one directory, with nothing behind the name as given. -/
theorem candidatesIn_eq (dir : Path) :
    candidatesIn dir program extensions =
      ("" :: extensions).map (withSuffix (dir.join program)) := by
  rw [candidatesIn, List.map_cons, withSuffix, String.append_empty]

theorem candidateAt?_eq_some_iff (place : Place) (path : Path) :
    candidateAt? program pathVar extensions place = some path ↔
      ∃ dir, (dirsFor program pathVar)[place.dir]? = some dir ∧
        (candidatesIn dir program extensions)[place.suffix]? = some path := by
  simp only [candidatesIn_eq, List.getElem?_map, candidateAt?, Option.bind_eq_bind,
    Option.bind_eq_some_iff, Option.pure_def, Option.some.injEq, Option.map_eq_some_iff]

/-- Nothing is found exactly if no candidate is a file. -/
theorem locate_eq_none_iff :
    locate w program pathVar extensions = none ↔
      ∀ place candidate, candidateAt? program pathVar extensions place = some candidate →
        w.isFile candidate = false := by
  simp only [locate, List.findSome?_eq_none_iff, List.find?_eq_none, candidateAt?_eq_some_iff,
    Bool.not_eq_true, List.mem_iff_getElem?]
  constructor
  · rintro h place candidate ⟨dir, hdir, hcandidate⟩
    exact h dir ⟨_, hdir⟩ candidate ⟨_, hcandidate⟩
  · rintro h dir ⟨i, hdir⟩ candidate ⟨j, hcandidate⟩
    exact h ⟨i, j⟩ candidate ⟨dir, hdir, hcandidate⟩

variable {w program pathVar extensions}

/-- What is found has a place before which there is no file. -/
theorem firstFile_of_locate {path : Path}
    (h : locate w program pathVar extensions = some path) :
    FirstFile w program pathVar extensions path := by
  -- Nothing was found in the directories before, and none of the names before is a file.
  rcases List.findSome?_eq_some_iff.mp h with ⟨before, dir, after, hdirs, hfound, hbefore⟩
  rcases List.find?_eq_some_iff_append.mp hfound with ⟨hfile, front, back, hnames, hfront⟩
  refine ⟨⟨before.length, front.length⟩, ?_, hfile, fun earlier candidate hearlier hcandidate => ?_⟩
  · rw [candidateAt?_eq_some_iff, hdirs]
    refine ⟨dir, ?_, ?_⟩
    · rw [List.getElem?_append_right (Nat.le_refl _), Nat.sub_self, List.getElem?_cons_zero]
    · rw [hnames, List.getElem?_append_right (Nat.le_refl _), Nat.sub_self,
        List.getElem?_cons_zero]
  · rcases (candidateAt?_eq_some_iff _ _ _ _ _).mp hcandidate with ⟨dir', hdir', hname⟩
    rcases hearlier with hdir | ⟨hdir, hsuffix⟩
    · -- In an earlier directory nothing was found.
      rw [hdirs, List.getElem?_append_left hdir] at hdir'
      have hnone := hbefore dir' (List.mem_of_getElem? hdir')
      rw [List.find?_eq_none] at hnone
      exact Bool.eq_false_iff.mpr (hnone candidate (List.mem_of_getElem? hname))
    · -- In the same directory it is an earlier name.
      rw [hdirs, hdir, List.getElem?_append_right (Nat.le_refl _), Nat.sub_self,
        List.getElem?_cons_zero, Option.some.injEq] at hdir'
      rw [← hdir', hnames, List.getElem?_append_left hsuffix] at hname
      have hnot := hfront candidate (List.mem_of_getElem? hname)
      rw [Bool.not_eq_true'] at hnot
      exact hnot

/-- What is found is the first candidate that is a file. -/
theorem locate_eq_some_iff {path : Path} :
    locate w program pathVar extensions = some path ↔
      FirstFile w program pathVar extensions path := by
  refine ⟨firstFile_of_locate, ?_⟩
  rintro ⟨place, hplace, hfile, hfirst⟩
  cases hlocate : locate w program pathVar extensions with
  | none =>
      have hnone := (locate_eq_none_iff w program pathVar extensions).mp hlocate place path hplace
      rw [hfile] at hnone
      cases hnone
  | some found =>
      -- Of two places with a file, only one has none before it.
      rcases firstFile_of_locate hlocate with ⟨place', hplace', hfile', hfirst'⟩
      rcases place.before_or_eq_or_before place' with hbefore | heq | hbefore
      · rw [hfirst' place path hbefore hplace] at hfile
        cases hfile
      · rw [heq, hplace'] at hplace
        exact hplace
      · rw [hfirst place' found hbefore hplace'] at hfile'
        cases hfile'

end Search

/-! ## Where it looks -/

section Dirs

variable {program : Path}

/-- A program with a directory of its own is looked for only there. -/
theorem dirsFor_of_one_lt (h : 1 < program.components.length) (pathVar : Option String) :
    dirsFor program pathVar = [⟨""⟩] :=
  if_pos h

/-- A program without one is looked for in the pieces of the search path. -/
theorem dirsFor_of_le_one (h : program.components.length ≤ 1) {pathVar : String}
    {dirs : List String} (hdirs : Text.Pieces ':' pathVar dirs) :
    dirsFor program (some pathVar) = dirs.map Path.mk := by
  rw [dirsFor, if_neg (Nat.not_lt.mpr h)]
  simp only [searchDirs, hdirs.splitAt_eq, List.map_map, Function.comp_def, String.ofList_toList]

/-- Without a search path it is looked for nowhere. -/
theorem dirsFor_none (h : program.components.length ≤ 1) : dirsFor program none = [] :=
  if_neg (Nat.not_lt.mpr h)

/-- What is tried for a program with a directory of its own: the program as given, and with
    extensions behind it. -/
theorem locate_of_one_lt (h : 1 < program.components.length) (w : World) (pathVar : Option String)
    (extensions : List String) :
    locate w program pathVar extensions =
      (program :: extensions.map (withSuffix program)).find? w.isFile := by
  -- Nothing is put in front of the program.
  have hjoin : Path.join ⟨""⟩ program = program := by
    rw [Path.join, if_pos]
    exact Bool.or_true _
  simp only [locate, dirsFor_of_one_lt h, candidatesIn, hjoin, List.findSome?_cons,
    List.findSome?_nil]
  split
  · rename_i hfound
    exact hfound.symm
  · rename_i hnone
    exact hnone.symm

end Dirs

/-! ## Starting what was found -/

section Launching

variable {env : Environment}

/-- The extensions where the environment names none. -/
theorem extensionsOf_of_none (h : env.getIgnoringCase? "PATHEXT" = none) :
    extensionsOf env = [".COM", ".EXE", ".BAT", ".CMD"] := by
  rw [extensionsOf, h]
  rfl

/-- The extensions that a variable names: its pieces without the empty ones. -/
theorem extensionsOf_of_pathext {pathext : String} {pieces : List String}
    (h : env.getIgnoringCase? "PATHEXT" = some pathext) (hpieces : Text.Pieces ';' pathext pieces) :
    extensionsOf env = pieces.filter (!·.isEmpty) := by
  have hempty : (fun piece : String => !piece.toList.isEmpty) = (!·.isEmpty) := by
    funext piece
    rw [Bool.eq_iff_iff, Bool.not_eq_true', Bool.not_eq_true', List.isEmpty_eq_false_iff,
      String.isEmpty_eq_false_iff, Ne, String.toList_eq_nil_iff]
  rw [extensionsOf, h, Option.getD_some, hpieces.splitAt_eq, List.filter_map, List.map_map]
  simp only [Function.comp_def, String.ofList_toList, List.map_id', hempty]

/-- On Windows the file that was found is started, or the formatter is unavailable. -/
theorem prepareLaunch_windows (w : World) (program : String) (env : Environment) :
    prepareLaunch w program env .windows =
      match locate w ⟨program⟩ (env.getIgnoringCase? "PATH") (extensionsOf env) with
      | some path => .ok ⟨path, some Platform.noWindow⟩
      | none => .error (.toolUnavailable program "not found on PATH") :=
  rfl

end Launching

/-- What a search finds, and where it looks. -/
structure Searches (w : World) (program : Path) (pathVar : Option String)
    (extensions : List String) : Prop where
  /-- It finds the first candidate that is a file. -/
  found : ∀ path, locate w program pathVar extensions = some path ↔
    FirstFile w program pathVar extensions path
  /-- It finds nothing exactly if no candidate is a file. -/
  missing : locate w program pathVar extensions = none ↔
    ∀ place candidate, candidateAt? program pathVar extensions place = some candidate →
      w.isFile candidate = false
  /-- A program with a directory of its own is looked for without the search path. -/
  apart : 1 < program.components.length → ∀ pathVar',
    locate w program pathVar' extensions =
      (program :: extensions.map (withSuffix program)).find? w.isFile
  /-- Any other program is looked for in the pieces of the search path. -/
  along : program.components.length ≤ 1 → dirsFor program none = [] ∧
    ∀ value, ∃ dirs, Text.Pieces ':' value dirs ∧
      dirsFor program (some value) = dirs.map Path.mk

/-- What is started on Windows. -/
structure LaunchesFound (w : World) (program : String) (env : Environment) : Prop where
  /-- Exactly the file that was found is started. -/
  launched : ∀ launch, prepareLaunch w program env .windows = .ok launch ↔
    ∃ path, locate w ⟨program⟩ (env.getIgnoringCase? "PATH") (extensionsOf env) = some path ∧
      launch = ⟨path, some Platform.noWindow⟩
  /-- If nothing was found, the formatter is unavailable. -/
  unavailable : prepareLaunch w program env .windows =
      .error (.toolUnavailable program "not found on PATH") ↔
    locate w ⟨program⟩ (env.getIgnoringCase? "PATH") (extensionsOf env) = none
  /-- Variables count under any letter case. -/
  anyCase : ∀ name value, env.getIgnoringCase? name = some value ↔ env.FirstNamed name value
  /-- The extensions where the environment names none. -/
  standard : (∀ entry ∈ env.entries, Environment.sameIgnoringCase entry.1 "PATHEXT" = false) →
    extensionsOf env = [".COM", ".EXE", ".BAT", ".CMD"]
  /-- The extensions that the environment names, without the empty ones. -/
  named : ∀ pathext, env.FirstNamed "PATHEXT" pathext →
    ∃ pieces, Text.Pieces ';' pathext pieces ∧ extensionsOf env = pieces.filter (!·.isEmpty)

theorem searches (w : World) (program : Path) (pathVar : Option String)
    (extensions : List String) : Searches w program pathVar extensions where
  found path := locate_eq_some_iff
  missing := locate_eq_none_iff w program pathVar extensions
  apart h pathVar' := locate_of_one_lt h w pathVar' extensions
  along h := by
    refine ⟨dirsFor_none h, fun value => ?_⟩
    have hpieces := Text.pieces_splitAt ':' value
    exact ⟨_, hpieces, dirsFor_of_le_one h hpieces⟩

theorem launchesFound (w : World) (program : String) (env : Environment) :
    LaunchesFound w program env where
  launched := by
    intro launch
    rw [prepareLaunch_windows]
    cases locate w ⟨program⟩ (env.getIgnoringCase? "PATH") (extensionsOf env) with
    | none => simp only [reduceCtorEq, false_and, exists_false]
    | some path => simp only [Except.ok.injEq, Option.some.injEq, exists_eq_left', eq_comm]
  unavailable := by
    rw [prepareLaunch_windows]
    cases locate w ⟨program⟩ (env.getIgnoringCase? "PATH") (extensionsOf env) with
    | none => exact iff_of_true rfl rfl
    | some path => simp only [reduceCtorEq]
  anyCase := env.getIgnoringCase?_eq_some_iff
  standard h := extensionsOf_of_none ((env.getIgnoringCase?_eq_none_iff _).mpr h)
  named pathext h := by
    have hpieces := Text.pieces_splitAt ';' pathext
    have hvalue := (env.getIgnoringCase?_eq_some_iff _ _).mpr h
    exact ⟨_, hpieces, extensionsOf_of_pathext hvalue hpieces⟩

/-- The search finds the first candidate that is a file, and on Windows that is what is started. -/
theorem searches_and_launchesFound (w : World) (program : String) (pathVar : Option String)
    (extensions : List String) (env : Environment) :
    Searches w ⟨program⟩ pathVar extensions ∧ LaunchesFound w program env :=
  ⟨searches w ⟨program⟩ pathVar extensions, launchesFound w program env⟩

/-- A world with an executable in each of two directories. -/
def twoToolsWorld : World where
  files := ⟨[(["a"], .dir), (["a", "black"], .dir), (["a", "black.CMD"], .file [] true),
    (["b"], .dir), (["b", "black.COM"], .file [] true)]⟩
  cwd := []
  env := ⟨[("Path", "/a:/b"), ("pathext", ".COM;;.CMD")]⟩
  programs := fun _ => none

/-- The extensions come in a different order than the directories, and the directories count. -/
theorem searches_and_launchesFound_twoTools :
    (Path.components ⟨"black"⟩).length ≤ 1 ∧ 1 < (Path.components ⟨"/b/black"⟩).length ∧
      twoToolsWorld.isFile ⟨"/b/black.COM"⟩ = true ∧
      FirstFile twoToolsWorld ⟨"black"⟩ (some "/a:/b") [".COM", ".CMD"] ⟨"/a/black.CMD"⟩ ∧
      prepareLaunch twoToolsWorld "black" twoToolsWorld.env .windows =
        .ok ⟨⟨"/a/black.CMD"⟩, some Platform.noWindow⟩ ∧
      ∀ pathVar, locate twoToolsWorld ⟨"/b/black"⟩ pathVar [".COM"] = some ⟨"/b/black.COM"⟩ := by
  have hbare := searches_and_launchesFound twoToolsWorld "black" (some "/a:/b") [".COM", ".CMD"]
    twoToolsWorld.env
  have hdir := searches_and_launchesFound twoToolsWorld "/b/black" none [".COM"] twoToolsWorld.env
  have hisFile : twoToolsWorld.isFile = _ := funext fun p => FileSystem.isFile_eq_reachBy _ _ p
  have hlocate : locate twoToolsWorld ⟨"black"⟩ (some "/a:/b") [".COM", ".CMD"] =
      some ⟨"/a/black.CMD"⟩ := by
    rw [locate, hisFile]
    rfl
  have hfind : ((⟨"/b/black"⟩ : Path) :: [".COM"].map (withSuffix ⟨"/b/black"⟩)).find?
      twoToolsWorld.isFile = some ⟨"/b/black.COM"⟩ := by
    rw [hisFile]
    rfl
  have hthere : twoToolsWorld.isFile ⟨"/b/black.COM"⟩ = true := by
    rw [hisFile]
    rfl
  have hseveral : 1 < (Path.components ⟨"/b/black"⟩).length := by decide
  refine ⟨by decide, hseveral, hthere, (hbare.1.found _).mp hlocate, ?_, fun pathVar => ?_⟩
  · exact (hbare.2.launched _).mpr ⟨_, hlocate, rfl⟩
  · exact (hdir.1.apart hseveral pathVar).trans hfind

end Formatter

end BufferFormat
