import BufferFormat.Proofs.Config.Spelling

/-!
# Which configuration files are found

The precedence of the layers rests on a list: the user's file first, then those of the project from
the root down to the buffer. The list is made step by step, by looking into one directory after the
other and leaving out what is there already. This module says what comes of it in one equation, for
every file system, working directory and home, whatever the start is.

What could go wrong is a file that takes part twice. The home directory may itself be above the
buffer, and then its file is met again on the way down. It is left out there if it is spelled in the
same way, component by component, and keeps its first place. The directories on the way are told
apart by the number of their steps, so that nothing else is ever left out.

The directory to start from is always there. Only a file is replaced by its parent, and the root,
which has no parent, is no file.

## Main definitions

* `ConfigFile.LooksFrom`: The directory from which files are looked for.
* `ConfigFile.homeFile?`: The file in the home directory.
* `homeAboveWorld`: A world in which the home directory is above the working directory.

## Theorems

* `FileSystem.resolve_of_steps_eq_nil`: An absolute path without steps leads to the root.
* `ConfigFile.exists_looksFrom`: There is a directory to start from.
* `ConfigFile.pairwise_discover`: No path is found twice.
* `ConfigFile.discover_ordered`: What is found, in its order.
* `discover_ordered_homeAbove`: The user's file comes first, and not again on the way down.
-/

namespace BufferFormat

namespace FileSystem

/-- Pieces that are no step make a walk stay in its directory. -/
theorem walkTo_of_stepsIn_eq_nil (fs : FileSystem) (links : Nat) {l : Location}
    (hdir : fs.entry? l = some .dir) {rest : List String} (h : stepsIn rest = []) :
    fs.walkTo links l rest = .ok l := by
  induction rest with
  | nil => rw [walkTo]
  | cons piece rest ih =>
      cases hvoid : Path.isVoid piece.toList with
      | true =>
          rw [stepsIn_cons_of_void hvoid] at h
          rw [isVoid_toList] at hvoid
          rw [walkTo, hdir]
          simp only [if_pos hvoid]
          exact ih h
      | false =>
          rw [stepsIn_cons_of_step hvoid] at h
          cases h

/-- An absolute path without steps leads to the root. -/
theorem resolve_of_steps_eq_nil (fs : FileSystem) (cwd : Location) {p : Path}
    (habs : p.isAbsolute = true) (hsteps : p.steps = []) : fs.resolve cwd p = .ok ([], .dir) := by
  have htext : ¬p.text.isEmpty = true := by
    intro hempty
    rw [Path.isAbsolute, String.isEmpty_iff.mp hempty] at habs
    cases habs
  have hreach : fs.reach cwd p = .ok [] := by
    rw [reach, if_neg htext, if_pos habs]
    exact walkTo_of_stepsIn_eq_nil fs _ rfl ((stepsIn_pieces p).trans hsteps)
  exact (resolve_eq_ok_iff _ _ _ _ _).mpr ⟨hreach, rfl⟩

/-- What names a file names no directory. -/
theorem isDir_of_isFile {fs : FileSystem} {cwd : Location} {p : Path}
    (h : fs.isFile cwd p = true) : fs.isDir cwd p = false := by
  rcases (isFile_iff _ _ _).mp h with ⟨loc, data, executable, hfile⟩
  rw [isDir, (resolve_eq_ok_iff _ _ _ _ _).mpr hfile]

end FileSystem

namespace ConfigFile

/-! ## Where to start -/

/-- The directory from which files are looked for. It belongs to the absolute form of the start:
    its parent if that is a file, and itself if it is a directory. For anything else it is the
    working directory. -/
structure LooksFrom (w : World) (start dir : Path) : Prop where
  of_file : w.isFile (Path.absoluteFrom w.cwdPath start) = true →
    (Path.absoluteFrom w.cwdPath start).parent? = some dir
  of_dir : w.isDir (Path.absoluteFrom w.cwdPath start) = true →
    dir = Path.absoluteFrom w.cwdPath start
  of_neither : w.isFile (Path.absoluteFrom w.cwdPath start) = false →
    w.isDir (Path.absoluteFrom w.cwdPath start) = false → dir = w.cwdPath

variable {w : World} {start : Path}

theorem spells_cwdPath (w : World) : w.cwdPath.Spells w.cwdPath.steps where
  absolute := by rw [World.cwdPath, Path.isAbsolute, FileSystem.toList_pathOf]; rfl
  steps_eq := rfl

/-- There is a directory to start from, and it is spelled from the root. -/
theorem exists_looksFrom (w : World) {start : Path} (hstart : start.text ≠ "") :
    ∃ dir, startDir? w start = some dir ∧ LooksFrom w start dir ∧ dir.Spells dir.steps := by
  have htext : ¬start.text.isEmpty = true := fun h => hstart (String.isEmpty_iff.mp h)
  have hspells := Path.spells_absoluteFrom (spells_cwdPath w) start
  simp only [startDir?, if_neg htext]
  cases hfile : w.isFile (Path.absoluteFrom w.cwdPath start) with
  | true =>
      have hdir : w.isDir (Path.absoluteFrom w.cwdPath start) = false :=
        FileSystem.isDir_of_isFile hfile
      rw [if_pos rfl]
      rcases Path.parent?_of_spells hspells with ⟨hroot, _⟩ | ⟨before, last, dir, _, hparent, hd⟩
      · -- The root is no file.
        have hresolve := FileSystem.resolve_of_steps_eq_nil w.files w.cwd hspells.absolute
          (hspells.steps_eq.trans hroot)
        rw [World.isFile, FileSystem.isFile, hresolve] at hfile
        cases hfile
      · refine ⟨dir, hparent, ⟨fun _ => hparent, ?_, ?_⟩, hd.absolute, rfl⟩
        · rw [hdir]
          exact fun h => Bool.noConfusion h
        · rw [hfile]
          exact fun h => Bool.noConfusion h
  | false =>
      rw [if_neg Bool.false_ne_true]
      cases hdir : w.isDir (Path.absoluteFrom w.cwdPath start) with
      | true =>
          refine ⟨_, rfl, ⟨?_, fun _ => rfl, ?_⟩, hspells.absolute, rfl⟩
          · rw [hfile]
            exact fun h => Bool.noConfusion h
          · rw [hdir]
            exact fun _ h => Bool.noConfusion h
      | false =>
          refine ⟨_, rfl, ⟨?_, ?_, fun _ _ => rfl⟩, spells_cwdPath w⟩
          · rw [hfile]
            exact fun h => Bool.noConfusion h
          · rw [hdir]
            exact fun h => Bool.noConfusion h

/-! ## What is found -/

/-- The file in the home directory, if it is one. -/
def homeFile? (w : World) : Option Path :=
  ((home? w.env).map (·.join fileName)).filter w.isFile

theorem inHome_eq_homeFile? (w : World) : inHome w = (homeFile? w).toList.map (⟨·, .global⟩) := by
  unfold inHome homeFile?
  cases (home? w.env).map (·.join fileName) with
  | none => rfl
  | some p =>
      rw [Option.toList_some, List.filter_cons, List.filter_nil, Option.filter_some]
      split <;> rfl

/-- What is found in different directories, but for what is there already, is found once. -/
theorem pairwise_newOnes {paths : List Path} {files : List ConfigFile}
    (hfiles : files.Pairwise fun f g => f.path.same g.path = false)
    (hpaths : paths.Pairwise fun p q => p.same q = false) :
    (files ++ newOnes w files paths).Pairwise fun f g => f.path.same g.path = false := by
  rw [List.pairwise_append]
  refine ⟨hfiles, List.pairwise_map.mpr (hpaths.filter _), fun f hf g hg => ?_⟩
  rcases List.mem_map.mp hg with ⟨p, hp, rfl⟩
  have hnew := (List.mem_filter.mp hp).2
  simp only [Bool.and_eq_true, Bool.not_eq_true', List.any_eq_false, Bool.not_eq_true] at hnew
  exact hnew.2 f hf

theorem pairwise_inHome (w : World) :
    (inHome w).Pairwise fun f g => f.path.same g.path = false := by
  rw [inHome_eq_homeFile?]
  cases homeFile? w with
  | none => exact .nil
  | some p => exact List.pairwise_singleton _ _

/-- The files for a path, in one equation: that of the home directory if it is one, and then those
    in the lexical ancestors of the directory to start from, root first, without the one that is
    there already. Ancestors are the paths whose steps are the first ones of that directory, and no
    path is found twice. -/
theorem discover_ordered (w : World) {start : Path} (hstart : start.text ≠ "") :
    ∃ dir, LooksFrom w start dir ∧
      List.Forall₂ Path.Spells dir.ancestors.reverse dir.steps.inits ∧
      discover w start = (homeFile? w).toList.map (⟨·, .global⟩) ++
        ((dir.ancestors.reverse.map (·.join fileName)).filter fun p =>
          w.isFile p && !(homeFile? w).any (·.same p)).map (⟨·, .project⟩) ∧
      (discover w start).Pairwise fun f g => f.path.same g.path = false := by
  rcases exists_looksFrom w hstart with ⟨dir, hdir, hfrom, hspells⟩
  have hancestors := Path.ancestors_of_spells hspells
  have hpaths := pairwise_of_spells (spellsFile_ancestors hspells) (pairwise_ne_inits _)
  have hdiscover : discover w start =
      inHome w ++ newOnes w (inHome w) (dir.ancestors.reverse.map (·.join fileName)) := by
    rw [discover, hdir, Option.map_some, Option.getD_some]
    exact foldl_add_eq w hpaths _
  have hpairwise := pairwise_newOnes (w := w) (pairwise_inHome w) hpaths
  refine ⟨dir, hfrom, hancestors, ?_, hdiscover ▸ hpairwise⟩
  rw [hdiscover, newOnes, inHome_eq_homeFile?]
  cases homeFile? w with
  | none => simp only [Option.toList_none, List.map_nil, List.any_nil, Option.any_none]
  | some home =>
      simp only [Option.toList_some, List.map_cons, List.map_nil, List.any_cons, List.any_nil,
        Bool.or_false, Option.any_some]

end ConfigFile

/-! ## A home directory on the way -/

/-- A world in which the home directory is above the working directory, and both have a file. -/
def homeAboveWorld : World where
  files := ⟨[(["h"], .dir), (["h", "blackpipe.toml"], .file [] false), (["h", "p"], .dir),
    (["h", "p", "blackpipe.toml"], .file [] false), (["h", "p", "m.py"], .file [] false)]⟩
  cwd := ["h", "p"]
  env := .ofList [("HOME", "/h/.")]
  programs := fun _ => none

/-- The user's file comes first, and it is not met again on the way down, although the home is
    spelled with a dot. -/
theorem discover_ordered_homeAbove :
    ("m.py" : String) ≠ "" ∧ ConfigFile.discover homeAboveWorld ⟨"m.py"⟩ =
      [⟨⟨"/h/./blackpipe.toml"⟩, .global⟩, ⟨⟨"/h/p/blackpipe.toml"⟩, .project⟩] := by
  have hlinks : homeAboveWorld.files.Unlinked := by decide
  refine ⟨by decide, ?_⟩
  have hstart : Path.text ⟨"m.py"⟩ ≠ "" := by decide
  rcases ConfigFile.discover_ordered homeAboveWorld hstart with ⟨dir, hfrom, -, hfound, -⟩
  have hisFile : homeAboveWorld.isFile = fun p =>
      (homeAboveWorld.files.seek homeAboveWorld.cwd p).any (·.way?.isNone) :=
    funext fun p => FileSystem.isFile_eq_seek hlinks homeAboveWorld.cwd p
  have hfile : homeAboveWorld.isFile (Path.absoluteFrom homeAboveWorld.cwdPath ⟨"m.py"⟩) =
      true := by
    rw [hisFile]
    decide
  have hparent : (Path.absoluteFrom homeAboveWorld.cwdPath ⟨"m.py"⟩).parent? = some ⟨"/h/p"⟩ := by
    decide
  obtain rfl : dir = ⟨"/h/p"⟩ := Option.some.inj ((hfrom.of_file hfile).symm.trans hparent)
  rw [hfound, ConfigFile.homeFile?, hisFile]
  decide

end BufferFormat
