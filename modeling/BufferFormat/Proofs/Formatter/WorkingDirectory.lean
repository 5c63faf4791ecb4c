import BufferFormat.Proofs.Batch.Unavailable
import BufferFormat.Proofs.FileSystem.Evaluation
import BufferFormat.Proofs.Path

/-!
# Where the formatter is started

A formatter that counts as unavailable is reported once for a whole batch, because every other file
would fail in the same way. Every file has its own directory, though, and the formatter is started
there. The start enters the directory and then looks for the executable from it, and the verdict is
read off the error, whichever of the two it comes from. The module says exactly when the formatter
counts as unavailable, and from that when the directory has no say.

A directory that can be entered has no say in a program that is looked for in the same places from
everywhere. Such a program is either a path from the root, or a name for which only such paths are
searched. All other programs are looked for in the directory itself. And a directory that does not
exist makes the formatter unavailable wherever its executable is, as both steps fail with the same
error.

## Main definitions

* `Formatter.Settled`: A program that is looked for in the same places from everywhere.
* `Formatter.Entered`: A directory that can be entered.
* `toolsWorld`: A world with an executable at the root and an empty directory.

## Theorems

* `FileSystem.resolve_of_isAbsolute`: A path from the root leads to the same place from everywhere.
* `Formatter.findExecutable_of_settled`: So does the search for a settled program.
* `Formatter.not_found_start_iff`: When the formatter counts as unavailable.
* `Formatter.not_found_start_of_entered`: When the directory has no say in that.
* `Formatter.found_start_entered`: Both together.
-/

namespace BufferFormat

/-- A path from the root leads to the same place from everywhere. -/
theorem FileSystem.resolve_of_isAbsolute (fs : FileSystem) {p : Path} (hp : p.isAbsolute = true)
    (cwd cwd' : Location) : fs.resolve cwd p = fs.resolve cwd' p := by
  simp only [resolve, reach, hp, if_true]

namespace Formatter

/-! ## Programs -/

/-- A program that is looked for in the same places from everywhere: a path from the root, or a name
    for which only such paths are searched. -/
def Settled (env : Environment) (program : Path) : Prop :=
  program.isAbsolute = true ∨
    '/' ∉ program.text.toList ∧
      ∀ dir ∈ searchDirs ((env.get? "PATH").getD systemPath), dir.isAbsolute = true

theorem executableAt_of_isAbsolute (fs : FileSystem) {p : Path} (hp : p.isAbsolute = true)
    (cwd cwd' : Location) : executableAt fs cwd p = executableAt fs cwd' p := by
  rw [executableAt, executableAt, fs.resolve_of_isAbsolute hp cwd cwd']

/-- A search through paths from the root finds the same from everywhere. -/
theorem searchIn_of_isAbsolute (fs : FileSystem) {program : Path}
    (hprogram : program.isAbsolute = false) {dirs : List Path}
    (hdirs : ∀ dir ∈ dirs, dir.isAbsolute = true) (cwd cwd' : Location) (last : OsError)
    (refused : Bool) :
    searchIn fs cwd program dirs last refused = searchIn fs cwd' program dirs last refused := by
  induction dirs generalizing last refused with
  | nil => rfl
  | cons dir dirs ih =>
      rw [List.forall_mem_cons] at hdirs
      have hdir := (Path.isAbsolute_join hprogram).trans hdirs.1
      unfold searchIn
      rw [executableAt_of_isAbsolute fs hdir cwd cwd']
      simp only [ih hdirs.2]

/-- A settled program is found from everywhere or from nowhere. -/
theorem findExecutable_of_settled (fs : FileSystem) {env : Environment} {program : Path}
    (h : Settled env program) (cwd cwd' : Location) :
    findExecutable fs cwd program env = findExecutable fs cwd' program env := by
  unfold findExecutable
  split
  · rfl
  · rename_i hempty
    rcases h with habs | ⟨hslash, hdirs⟩
    · -- A path from the root is no name, so nothing is searched.
      have hslash : program.text.toList.contains '/' = true := by
        rw [Path.isAbsolute, beq_iff_eq] at habs
        exact List.contains_iff_mem.mpr (List.mem_of_head? habs)
      rw [if_pos hslash, if_pos hslash]
      exact executableAt_of_isAbsolute fs habs cwd cwd'
    · have hprogram : program.isAbsolute = false := by
        rw [Path.isAbsolute, beq_eq_false_iff_ne]
        exact fun hhead => hslash (List.mem_of_head? hhead)
      rw [← List.contains_iff_mem] at hslash
      rw [if_neg hslash, if_neg hslash]
      exact searchIn_of_isAbsolute fs hprogram hdirs cwd cwd' _ _

/-! ## The verdict -/

/-- A failure is for want of the formatter if the fault says so. -/
theorem not_found_error_iff {α : Type} {fault : Fault} :
    ¬Found (.error fault : Except Fault α) ↔ fault.isToolUnavailable = true := by
  constructor
  · intro h
    by_contra hfault
    exact h (.error (Bool.eq_false_iff.mpr hfault))
  · intro hfault h
    rw [h fault rfl] at hfault
    cases hfault

/-- Looking for the executable beforehand fails for want of it only. -/
theorem unavailable_of_prepareLaunch {w : World} {program : String} {env : Environment}
    {platform : Platform} {fault : Fault}
    (h : prepareLaunch w program env platform = .error fault) : fault.isToolUnavailable = true := by
  unfold prepareLaunch at h
  split at h
  · cases h
  · split at h
    · cases h
    · cases h
      rfl

/-- A start fails for what does not exist if that is the directory or the executable. -/
theorem spawn_eq_notFound_iff (w : World) (launch : Launch) (args : List String) (r : Request) :
    spawn w launch args r = .error .notFound ↔
      enter w r.cwd = .error .notFound ∨ ∃ loc, enter w r.cwd = .ok loc ∧
        findExecutable w.files loc launch.program r.env = .error .notFound := by
  rw [spawn, bind_eq_error_iff]
  refine or_congr_right (exists_congr fun loc => and_congr_right fun _ => ?_)
  rw [bind_eq_error_iff]
  refine or_iff_left ?_
  -- A file that is found and cannot be run is another error.
  rintro ⟨place, _, hplace⟩
  split at hplace
  · cases hplace
  · cases hplace

theorem isToolUnavailable_startFault (program : String) (e : OsError) :
    (startFault program e).isToolUnavailable = true ↔ e = .notFound := by
  cases e with
  | notFound => exact ⟨fun _ => rfl, fun _ => rfl⟩
  | _ => exact ⟨nofun, nofun⟩

/-- The formatter counts as unavailable in three cases: its executable is looked for beforehand and
    is not found, the directory in which to start it does not exist, or the executable is not found
    from there. -/
theorem not_found_start_iff (w : World) (r : Request) (platform : Platform) :
    ¬Found (start w r platform) ↔ ∃ program args, r.args = program :: args ∧
      ((∃ fault, prepareLaunch w program r.env platform = .error fault) ∨
        ∃ launch, prepareLaunch w program r.env platform = .ok launch ∧
          anyNul launch.program args r = false ∧
          (enter w r.cwd = .error .notFound ∨ ∃ loc, enter w r.cwd = .ok loc ∧
            findExecutable w.files loc launch.program r.env = .error .notFound)) := by
  unfold start
  cases r.args with
  | nil =>
      refine iff_of_false (not_not.mpr (.error rfl)) ?_
      rintro ⟨_, _, hargs, _⟩
      cases hargs
  | cons program args =>
      simp only [List.cons.injEq, and_assoc, exists_and_left, exists_eq_left']
      cases hlaunch : prepareLaunch w program r.env platform with
      | error fault =>
          exact iff_of_true (not_found_error_iff.mpr (unavailable_of_prepareLaunch hlaunch))
            (Or.inl ⟨fault, rfl⟩)
      | ok launch =>
          simp only [bind, Except.bind, reduceCtorEq, exists_false, false_or, Except.ok.injEq,
            exists_eq_left', ← spawn_eq_notFound_iff w launch args r]
          split
          · rename_i hnul
            refine iff_of_false (not_not.mpr (.error rfl)) fun h => ?_
            rw [h.1] at hnul
            cases hnul
          · rename_i hnul
            rw [Bool.not_eq_true] at hnul
            rw [and_iff_right hnul]
            cases hspawn : spawn w launch args r with
            | ok result => exact iff_of_false (not_not.mpr (.ok _)) nofun
            | error e => rw [not_found_error_iff, isToolUnavailable_startFault, Except.error.injEq]

/-! ## The directory -/

/-- A directory that can be entered. -/
def Entered (w : World) (dir : Option Path) : Prop :=
  dir.any (World.hasNul ·.text) = false ∧ ∃ loc, enter w dir = .ok loc

section Directory

variable {w : World} {r : Request} {platform : Platform} {dir other : Option Path}

/-- If the formatter counts as unavailable in one directory, it does so in every other one. -/
theorem not_found_start_of_entered (hdir : Entered w dir) (hother : Entered w other)
    (hsettled : ∀ program args launch, r.args = program :: args →
      prepareLaunch w program r.env platform = .ok launch → Settled r.env launch.program)
    (h : ¬Found (start w { r with cwd := dir } platform)) :
    ¬Found (start w { r with cwd := other } platform) := by
  rcases hdir with ⟨hnul, loc, henter⟩
  rcases hother with ⟨hnul', loc', henter'⟩
  rw [not_found_start_iff] at h ⊢
  rcases h with ⟨program, args, hargs, hfault | ⟨launch, hlaunch, htexts, hmissing | hmissing⟩⟩
  · exact ⟨program, args, hargs, Or.inl hfault⟩
  · rw [henter] at hmissing
    cases hmissing
  · rcases hmissing with ⟨place, hplace, hfind⟩
    refine ⟨program, args, hargs, Or.inr ⟨launch, hlaunch, ?_, Or.inr ⟨loc', henter', ?_⟩⟩⟩
    · simp only [anyNul, hnul, hnul'] at htexts ⊢
      exact htexts
    · rw [findExecutable_of_settled w.files (hsettled program args launch hargs hlaunch) loc' place]
      exact hfind

end Directory

/-- When the formatter counts as unavailable in a directory, and when the directory has no say in
    that. It has none if it can be entered and the program is settled. A program that is not settled
    is looked for in the directory, and a directory that does not exist makes the formatter
    unavailable wherever its executable is. -/
theorem found_start_entered (w : World) (r : Request) (platform : Platform) :
    (∀ dir other, Entered w dir → Entered w other →
      (∀ program args launch, r.args = program :: args →
        prepareLaunch w program r.env platform = .ok launch → Settled r.env launch.program) →
      (Found (start w { r with cwd := dir } platform) ↔
        Found (start w { r with cwd := other } platform))) ∧
      ∀ dir, ¬Found (start w { r with cwd := dir } platform) ↔
        ∃ program args, r.args = program :: args ∧
          ((∃ fault, prepareLaunch w program r.env platform = .error fault) ∨
            ∃ launch, prepareLaunch w program r.env platform = .ok launch ∧
              anyNul launch.program args { r with cwd := dir } = false ∧
              (enter w dir = .error .notFound ∨ ∃ loc, enter w dir = .ok loc ∧
                findExecutable w.files loc launch.program r.env = .error .notFound)) :=
  ⟨fun _ _ hdir hother hsettled => not_iff_not.mp
    ⟨not_found_start_of_entered hdir hother hsettled,
      not_found_start_of_entered hother hdir hsettled⟩,
    fun dir => not_found_start_iff w { r with cwd := dir } platform⟩

end Formatter

/-! ## A world with an executable -/

/-- A world with an executable at the root and an empty directory. -/
def toolsWorld : World where
  files := ⟨[(["f"], .file [] true), (["d"], .dir)]⟩
  cwd := []
  env := .empty
  programs := fun _ => some fun _ => ⟨0, [], []⟩

namespace Formatter

/-- A request to start a program in a directory. -/
def Request.plain (program : String) (dir : Option Path) : Request :=
  ⟨[program], .empty, dir, []⟩

/-- What comes of starting the executable by its two names, from the root and from elsewhere. -/
theorem start_toolsWorld :
    start toolsWorld (.plain "/f" none) .unix = .ok (⟨[], .empty, [], []⟩, ⟨0, [], []⟩) ∧
      start toolsWorld (.plain "/f" (some ⟨"gone"⟩)) .unix =
        .error (.toolUnavailable "/f" "No such file or directory (os error 2)") ∧
      start toolsWorld (.plain "./f" none) .unix = .ok (⟨[], .empty, [], []⟩, ⟨0, [], []⟩) ∧
      start toolsWorld (.plain "./f" (some ⟨"d"⟩)) .unix =
        .error (.toolUnavailable "./f" "No such file or directory (os error 2)") := by
  simp only [start, Request.plain, spawn, enter, findExecutable, executableAt, FileSystem.resolve,
    FileSystem.reach_eq_reachBy]
  exact ⟨rfl, rfl, rfl, rfl⟩

/-- The directory can be entered. -/
theorem entered_toolsWorld : Entered toolsWorld (some ⟨"d"⟩) := by
  refine ⟨by decide, ["d"], ?_⟩
  simp only [enter, FileSystem.resolve, FileSystem.reach_eq_reachBy]
  rfl

/-- From the directory the executable is found as it is from the root, as its path begins there. -/
theorem found_start_entered_root :
    (Entered toolsWorld none ∧ Entered toolsWorld (some ⟨"d"⟩)) ∧
      Found (start toolsWorld (.plain "/f" (some ⟨"d"⟩)) .unix) := by
  have hroot : Entered toolsWorld none := ⟨rfl, [], rfl⟩
  have hdir := entered_toolsWorld
  refine ⟨⟨hroot, hdir⟩, ?_⟩
  have hsame := (found_start_entered toolsWorld (.plain "/f" none) .unix).1 none (some ⟨"d"⟩) hroot
    hdir
  refine (hsame ?_).mp (start_toolsWorld.1 ▸ .ok _)
  intro program args launch hargs hlaunch
  cases hargs
  cases hlaunch
  exact Or.inl rfl

/-- In a directory that does not exist the same executable counts as unavailable. So it does in one
    that exists, if its path begins where it is started. -/
theorem not_found_start_elsewhere :
    Found (start toolsWorld (.plain "/f" none) .unix) ∧
      ¬Found (start toolsWorld (.plain "/f" (some ⟨"gone"⟩)) .unix) ∧
      Found (start toolsWorld (.plain "./f" none) .unix) ∧
      ¬Found (start toolsWorld (.plain "./f" (some ⟨"d"⟩)) .unix) := by
  rcases start_toolsWorld with ⟨hstart, hgone, hhere, hthere⟩
  rw [hstart, hgone, hhere, hthere, not_found_error_iff, not_found_error_iff]
  exact ⟨.ok _, rfl, .ok _, rfl⟩

end Formatter

end BufferFormat
