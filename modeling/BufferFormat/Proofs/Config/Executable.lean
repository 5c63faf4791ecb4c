import BufferFormat.Proofs.Config.Precedence
import BufferFormat.Proofs.FileSystem

/-!
# Who chooses the executable

A project that was only downloaded must not decide which program is run on its files. Every file
that is found on the way down to a buffer counts as a project's, and what such a file says about the
executable is dropped. So the choice rests with a single file, the one in the home directory.

The theorems compare two worlds. Their environments agree and so do their directories and links, but
files may have been added, deleted or changed anywhere except at the place to which the path of the
home directory's file leads. Both worlds then run the same program, whatever path the configuration
is for.

Where that path leads is not always the home directory. An empty or relative home is seen from the
working directory, so that the file of a project on which one works is trusted like the user's own.
`command_discovered_emptyHome` shows the harm.

## Main definitions

* `ProjectWorld`: A world with an empty home in which a project may have a file.

## Theorems

* `discover_eq_append`: The files are that of the home directory, and then those of projects.
* `command_discovered`: Only the file in the home directory can choose the executable.
* `command_discovered_congr`: Files elsewhere do not change the choice.
* `command_discovered_emptyHome`: With an empty home, the file of a project is trusted.
-/

namespace BufferFormat

namespace ConfigFile

/-- The usable files of the global layer are the files of that layer that can be used. -/
theorem globalOnly_usable (w : World) (files : List ConfigFile) :
    globalOnly (usable w files) = usable w (files.filter fun file => file.layer = .global) := by
  induction files with
  | nil => rfl
  | cons file files ih =>
      cases hread : Settings.read w file.path with
      | ok settings =>
          rw [usable_cons_of_ok w file files settings hread, globalOnly_cons, ih]
          by_cases hlayer : file.layer = .global
          · rw [if_pos hlayer, List.filter_cons_of_pos (by simp only [hlayer, decide_true]),
              usable_cons_of_ok w file _ settings hread]
          · rw [if_neg hlayer, List.filter_cons_of_neg (by simp only [hlayer, decide_false]; nofun)]
      | error fault =>
          have hskip := fun rest => usable_of_error w [] file rest fault hread
          simp only [List.nil_append] at hskip
          rw [hskip, ih]
          by_cases hlayer : file.layer = .global
          · rw [List.filter_cons_of_pos (by simp only [hlayer, decide_true]), hskip]
          · rw [List.filter_cons_of_neg (by simp only [hlayer, decide_false]; nofun)]

/-- The file in the home directory is of the global layer. -/
theorem layer_of_mem_inHome {w : World} {file : ConfigFile} (h : file ∈ inHome w) :
    file.layer = .global := by
  rcases List.mem_map.mp h with ⟨path, _, rfl⟩
  rfl

/-- The file in the home directory is found where it is one. -/
theorem inHome_eq {w : World} {home : Path} (hhome : home? w.env = some home) :
    inHome w =
      if w.isFile (home.join fileName) = true then [⟨home.join fileName, .global⟩] else [] := by
  rw [inHome, hhome, Option.map_some, Option.toList_some, List.filter_cons, List.filter_nil]
  split <;> rfl

/-- Files that are added on the way down are of the project layer. -/
theorem foldl_add_eq_append (w : World) (paths : List Path) :
    ∀ files : List ConfigFile, ∃ projects,
      paths.foldl (add w) files = files ++ projects ∧
        ∀ file ∈ projects, file.layer = .project := by
  induction paths with
  | nil =>
      intro files
      exact ⟨[], (List.append_nil files).symm, fun _ h => absurd h List.not_mem_nil⟩
  | cons path paths ih =>
      intro files
      rw [List.foldl_cons, add]
      split
      · -- The file joins the others, and more may follow.
        rcases ih (files ++ [⟨path, .project⟩]) with ⟨projects, hfold, hlayer⟩
        refine ⟨⟨path, .project⟩ :: projects, ?_, ?_⟩
        · rw [hfold, List.append_assoc, List.singleton_append]
        · intro file hfile
          rcases List.mem_cons.mp hfile with rfl | hrest
          · rfl
          · exact hlayer file hrest
      · exact ih files

/-- The files for a path are that of the home directory, and then those of projects. -/
theorem discover_eq_append (w : World) (start : Path) :
    ∃ projects, discover w start = inHome w ++ projects ∧
      ∀ file ∈ projects, file.layer = .project :=
  foldl_add_eq_append w _ (inHome w)

/-- What the file in the home directory sets is all that the global layer has. -/
theorem globalOnly_discover (w : World) (start : Path) :
    globalOnly (usable w (discover w start)) = usable w (inHome w) := by
  rcases discover_eq_append w start with ⟨projects, hdiscover, hlayer⟩
  have hhome : (inHome w).filter (fun file => file.layer = .global) = inHome w :=
    List.filter_eq_self.mpr fun file hfile => decide_eq_true (layer_of_mem_inHome hfile)
  have hprojects : projects.filter (fun file => file.layer = .global) = [] := by
    refine List.filter_eq_nil_iff.mpr fun file hfile => ?_
    rw [hlayer file hfile]
    nofun
  rw [globalOnly_usable, hdiscover, List.filter_append, hhome, hprojects, List.append_nil]

end ConfigFile

namespace Config

/-- Only the file in the home directory can choose the executable. -/
theorem command_discovered (w : World) (start : Path) :
    (discovered w start).1.command =
      (lastSet (·.command) (ConfigFile.usable w (ConfigFile.inHome w))).getD "black" := by
  rw [fst_discovered, overwritten, ConfigFile.globalOnly_discover]

end Config

/-! ## Two worlds -/

section TwoWorlds

variable {w w' : World}

/-- A file that is read alike in two worlds makes the same settings in both. -/
theorem Settings.read_congr {path : Path}
    (h : ∀ data, w'.readFile path = .ok data ↔ w.readFile path = .ok data)
    (settings : Settings) :
    Settings.read w' path = .ok settings ↔ Settings.read w path = .ok settings := by
  simp only [read_eq_ok_iff, World.readText_eq_ok_iff, h]

/-- A file that makes the same settings in two worlds can be used in both, or in neither. -/
theorem ConfigFile.usable_congr {file : ConfigFile}
    (h : ∀ settings, Settings.read w' file.path = .ok settings ↔
      Settings.read w file.path = .ok settings) :
    usable w' [file] = usable w [file] := by
  cases hread : Settings.read w file.path with
  | ok settings =>
      rw [usable_cons_of_ok w file [] settings hread,
        usable_cons_of_ok w' file [] settings ((h settings).mpr hread)]
      rfl
  | error fault =>
      cases hread' : Settings.read w' file.path with
      | ok settings =>
          rw [(h settings).mp hread'] at hread
          cases hread
      | error fault' =>
          exact (usable_of_error w' [] file [] fault' hread').trans
            (usable_of_error w [] file [] fault hread).symm

/-- The file in the home directory makes the same settings in two worlds that agree on where it
    is. -/
theorem ConfigFile.usable_inHome_congr (henv : w'.env = w.env) (hcwd : w'.cwd = w.cwd)
    (hs : w.files.SameWays w'.files)
    (hhome : ∀ home ∈ home? w.env, ∀ loc,
      w.files.reach w.cwd (home.join fileName) = .ok loc →
        w'.files.entry? loc = w.files.entry? loc) :
    usable w' (inHome w') = usable w (inHome w) := by
  cases hfound : home? w.env with
  | none => rw [inHome, inHome, henv, hfound]; rfl
  | some home =>
      rcases World.readFile_congr hcwd hs (hhome home hfound) with ⟨hfile, hread⟩
      rw [inHome_eq hfound, inHome_eq ((congrArg home? henv).trans hfound), hfile]
      split
      · exact usable_congr (Settings.read_congr hread)
      · rfl

/-- Files may be added, deleted and changed anywhere but at the place to which the path of the home
    directory's file leads: the executable stays the same, for every path. -/
theorem Config.command_discovered_congr (henv : w'.env = w.env) (hcwd : w'.cwd = w.cwd)
    (hs : w.files.SameWays w'.files)
    (hhome : ∀ home ∈ ConfigFile.home? w.env, ∀ loc,
      w.files.reach w.cwd (home.join ConfigFile.fileName) = .ok loc →
        w'.files.entry? loc = w.files.entry? loc)
    (start : Path) : (discovered w' start).1.command = (discovered w start).1.command := by
  rw [command_discovered, command_discovered,
    ConfigFile.usable_inHome_congr henv hcwd hs hhome]

end TwoWorlds

/-! ## A project in the working directory -/

/-- A world in which one works on a project. The project may hold a configuration file, and there is
    an empty directory that may serve as the home. -/
def projectWorld (home : String) (document : Option String) : World where
  files := ⟨[(["p"], .dir), (["h"], .dir)] ++
    (document.map fun text =>
      (["p", "blackpipe.toml"], .file (Utf8.encode text.toList) false)).toList⟩
  cwd := ["p"]
  env := ⟨[("HOME", home)]⟩
  programs := fun _ => none

/-- The document of a project that wants another program to be run. -/
def hijack : String := "command = \"./run-me\"\n"

/-- Whether the project holds a configuration file makes no difference for directories and links. -/
theorem sameWays_projectWorld (home : String) (document : Option String) :
    (projectWorld home none).files.SameWays (projectWorld home document).files := by
  cases document with
  | none => exact fun loc => rfl
  | some text => exact FileSystem.sameWays_append_file _ _ _ _

/-- The file of an empty home is that of the project. -/
theorem reach_emptyHome (document : Option String) :
    (projectWorld "" document).files.reach (projectWorld "" document).cwd
      (Path.join ⟨""⟩ ConfigFile.fileName) = .ok ["p", "blackpipe.toml"] := by
  refine FileSystem.reach_of_sameWays (sameWays_projectWorld "" document) ?_
  rw [FileSystem.reach, if_neg (by decide)]
  exact FileSystem.walkTo_last _ _ ["p"] "blackpipe.toml" rfl (by decide) (by decide) (by decide)
    rfl

/-- The file of an absolute home is the one in that directory. -/
theorem reach_absoluteHome (document : Option String) :
    (projectWorld "/h" document).files.reach (projectWorld "/h" document).cwd
      (Path.join ⟨"/h"⟩ ConfigFile.fileName) = .ok ["h", "blackpipe.toml"] := by
  refine FileSystem.reach_of_sameWays (sameWays_projectWorld "/h" document) ?_
  have hpieces : FileSystem.pieces (Path.join ⟨"/h"⟩ ConfigFile.fileName) =
      ["", "h", "blackpipe.toml"] := rfl
  have hdir : (projectWorld "/h" none).files.entry? ["h"] = some .dir := rfl
  have hlink : ∀ target, Entry.dir ≠ .link target := fun _ => nofun
  rw [FileSystem.reach, if_neg (by decide), if_pos (by decide), hpieces, FileSystem.walkTo,
    show (projectWorld "/h" none).files.entry? [] = some .dir from rfl]
  change FileSystem.walkTo _ _ [] ["h", "blackpipe.toml"] = _
  rw [FileSystem.walkTo_enter _ _ [] "h" _ rfl (by decide) (by decide) (by decide) hlink hdir]
  exact FileSystem.walkTo_last _ _ ["h"] "blackpipe.toml" rfl (by decide) (by decide) (by decide)
    rfl

/-- With an absolute home, a project on which one works does not choose the executable, whatever its
    file says. -/
theorem command_discovered_absoluteHome :
    (Config.discovered (projectWorld "/h" (some hijack)) ⟨"m.py"⟩).1.command =
      (Config.discovered (projectWorld "/h" none) ⟨"m.py"⟩).1.command := by
  have hs := sameWays_projectWorld "/h" (some hijack)
  refine @Config.command_discovered_congr (projectWorld "/h" none)
    (projectWorld "/h" (some hijack)) rfl rfl hs ?_ ⟨"m.py"⟩
  intro home hhome loc hloc
  cases hhome
  -- The two worlds agree on the home directory, where there is no file.
  rw [← Except.ok.inj ((reach_absoluteHome none).symm.trans hloc)]
  rfl

/-- Without a file, an empty home has none either. -/
theorem isFile_emptyHome_none :
    ¬(projectWorld "" none).isFile (Path.join ⟨""⟩ ConfigFile.fileName) = true := by
  intro h
  rcases (FileSystem.isFile_iff _ _ _).mp h with ⟨loc, data, executable, hreach, hentry⟩
  rw [← Except.ok.inj ((reach_emptyHome none).symm.trans hreach)] at hentry
  cases hentry

/-- The file of the project is the file of an empty home. -/
theorem isFile_emptyHome_some (text : String) :
    (projectWorld "" (some text)).isFile (Path.join ⟨""⟩ ConfigFile.fileName) = true :=
  (FileSystem.isFile_iff _ _ _).mpr
    ⟨_, Utf8.encode text.toList, false, reach_emptyHome (some text), rfl⟩

/-- The document of the project can be read, and sets the executable. -/
theorem read_hijack :
    Settings.read (projectWorld "" (some hijack)) (Path.join ⟨""⟩ ConfigFile.fileName) =
      .ok { command := some "./run-me" } := by
  refine (Settings.read_eq_ok_iff _ _ _).mpr ⟨hijack, ?_, rfl⟩
  refine (World.readText_eq_ok_iff _ _ _).mpr ⟨Utf8.encode hijack.toList, hijack.toList, ?_, rfl,
    rfl⟩
  refine (World.readFile_eq_ok_iff _ _ _).mpr ⟨rfl, (FileSystem.read_eq_ok_iff _ _ _ _).mpr ?_⟩
  exact ⟨["p", "blackpipe.toml"], false, reach_emptyHome (some hijack), rfl⟩

/-- With an empty home, the file of a project on which one works is trusted like the user's own: to
    add it is to choose the executable. -/
theorem command_discovered_emptyHome :
    (Config.discovered (projectWorld "" none) ⟨"m.py"⟩).1.command = "black" ∧
      (Config.discovered (projectWorld "" (some hijack)) ⟨"m.py"⟩).1.command = "./run-me" := by
  have hhome : ∀ document, ConfigFile.home? (projectWorld "" document).env = some ⟨""⟩ :=
    fun _ => rfl
  constructor
  · rw [Config.command_discovered, ConfigFile.inHome_eq (hhome none),
      if_neg isFile_emptyHome_none]
    rfl
  · have husable := ConfigFile.usable_cons_of_ok (projectWorld "" (some hijack))
      ⟨Path.join ⟨""⟩ ConfigFile.fileName, .global⟩ [] _ read_hijack
    rw [Config.command_discovered, ConfigFile.inHome_eq (hhome (some hijack)),
      if_pos (isFile_emptyHome_some hijack), husable]
    rfl

end BufferFormat
