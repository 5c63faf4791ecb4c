import BufferFormat.Proofs.Batch.Listing
import BufferFormat.Proofs.Batch.Piping
import BufferFormat.Proofs.Batch.Sight
import BufferFormat.Proofs.Config.Spelling

/-!
# A file that should not matter

Every file that is formatted has its own configuration, made of the files on the way down to it. So
a configuration file in the directory from which the program is started, and above that directory,
should have no say in files that lie elsewhere. The program resolves a configuration for the working
directory all the same, because it decides what the program says about its own doings.

The theorem compares two worlds that differ in a single file. The file is not listed, and nothing
that is looked at on behalf of a listed file leads to it. Then the same requests are made, the same
is written, and the status is the same, in whatever order the jobs take their steps: every step does
the same in both worlds and leaves them different in that one file. A job never looks at the
configuration for the working directory.

The run as a whole does look at it, before any job begins. A file that makes this configuration
unusable ends the run, as `runProgramWith_of_unusable_base` shows, so the theorem asks for two
worlds in which the configuration is usable, or two in which it is not.

## Main definitions

* `ConfigFile.asked`: The paths that are looked at for the configuration of a file.
* `World.Apart`: A file for which another one does not matter.
* `Batch.Setup.requestFor`: The request that is made for a file.
* `CommandLine.Strays`: A file that does not matter for what a command line lists.
* `Shared.Alike`, `Batch.Alike`: Runs that differ in the world at one location.

## Theorems

* `Config.discovered_eq_of_asked`: What is not looked at does not matter for a configuration.
* `Job.step_alike`: A step does the same in both worlds.
* `Batch.follow_alike`: So do all steps of a schedule.
* `runProgramWith_of_strays`: So does a run of the program.
-/

namespace BufferFormat

/-! ## What a configuration looks at -/

/-- The paths that are looked at for the configuration of a file: its absolute form, the file in the
    home directory, and those in the directories above. Something may be there or not. -/
def ConfigFile.asked (w : World) (start : Path) : List Path :=
  (if start.text.isEmpty then start else Path.absoluteFrom w.cwdPath start) ::
    ((home? w.env).map (·.join fileName)).toList ++
      (((startDir? w start).map Path.ancestors).getD []).map (·.join fileName)

namespace ConfigFile

variable {loc : Location} {w w' : World} {start : Path}

/-- A file that was added on the way down was there before, or it is one of the paths and a file. -/
theorem mem_foldl_add {paths : List Path} {files : List ConfigFile} {file : ConfigFile}
    (h : file ∈ paths.foldl (add w) files) :
    file ∈ files ∨ file.path ∈ paths ∧ w.isFile file.path = true := by
  induction paths generalizing files with
  | nil => exact Or.inl h
  | cons path paths ih =>
      rw [List.foldl_cons] at h
      rcases ih h with hadded | ⟨hmem, hfile⟩
      · unfold add at hadded
        split at hadded
        · rename_i hpath
          rcases List.mem_append.mp hadded with hold | hnew
          · exact Or.inl hold
          · rw [List.mem_singleton.mp hnew]
            exact Or.inr ⟨List.mem_cons_self, (Bool.and_eq_true_iff.mp hpath).1⟩
        · exact Or.inl hadded
      · exact Or.inr ⟨List.mem_cons_of_mem path hmem, hfile⟩

/-- The files for a path are files that were asked for. -/
theorem asked_of_mem_discover {file : ConfigFile} (h : file ∈ discover w start) :
    file.path ∈ asked w start ∧ w.isFile file.path = true := by
  rcases mem_foldl_add h with hhome | ⟨hmem, hfile⟩
  · rcases List.mem_map.mp hhome with ⟨path, hpath, rfl⟩
    rcases List.mem_filter.mp hpath with ⟨hmem, hfile⟩
    exact ⟨List.mem_append_left _ (List.mem_cons_of_mem _ hmem), hfile⟩
  · refine ⟨List.mem_append_right _ ?_, hfile⟩
    rw [List.map_reverse, List.mem_reverse] at hmem
    exact hmem

/-- The same files are found, if nothing that is looked at leads to the one that differs. -/
theorem discover_eq_of_asked (h : w.AgreeExcept loc w')
    (hasked : ∀ p ∈ asked w start, w.files.reach w.cwd p ≠ .ok loc) :
    discover w' start = discover w start := by
  rw [asked, List.cons_append, List.forall_mem_cons, List.forall_mem_append] at hasked
  rcases hasked with ⟨hstart, hhome, hdirs⟩
  have hdir := h.isDir_eq
  have hfile : ∀ p, w.files.reach w.cwd p ≠ .ok loc → w'.isFile p = w.isFile p :=
    fun p => h.isFile_eq
  rcases h with ⟨files, _, rfl⟩
  have hstartDir : startDir? { w with files } start = startDir? w start := by
    simp only [startDir?]
    rw [hdir]
    exact ite_congr (congrArg (· = true) (hfile _ hstart)) (fun _ => rfl) (fun _ => rfl)
  have hinHome : inHome { w with files } = inHome w :=
    congrArg (List.map _) (List.filter_congr fun p hp => hfile p (hhome p hp))
  rw [discover, discover, hstartDir, hinHome]
  refine List.foldl_ext _ _ _ fun found p hp => ?_
  rw [List.map_reverse, List.mem_reverse] at hp
  rw [add, add, hfile p (hdirs p hp)]

end ConfigFile

/-- What is not looked at does not matter for a configuration, nor for what there is to say about
    it. -/
theorem Config.discovered_eq_of_asked {loc : Location} {w w' : World} {start : Path}
    (h : w.AgreeExcept loc w')
    (hasked : ∀ p ∈ ConfigFile.asked w start, w.files.reach w.cwd p ≠ .ok loc) :
    discovered w' start = discovered w start := by
  unfold discovered
  rw [ConfigFile.discover_eq_of_asked h hasked]
  refine List.foldl_ext _ _ _ fun found file hfile => ?_
  -- A file that is found leads to another place, where both worlds have the same.
  rcases ConfigFile.asked_of_mem_discover hfile with ⟨hmem, hisFile⟩
  rcases (FileSystem.isFile_iff _ _ _).mp hisFile with ⟨l, data, executable, hreach, _⟩
  have hl : l ≠ loc := by
    rintro rfl
    exact hasked _ hmem hreach
  have hread : Settings.read w' file.path = Settings.read w file.path := by
    rw [Settings.read, World.readText, h.readFile_eq hreach hl]
    rfl
  simp only [addLayer, hread]

/-- While the contents of files change, the same paths are asked for. -/
theorem ConfigFile.asked_eq {w v : World} (h : w.SameTree v) (start : Path) :
    asked v start = asked w start := by
  have hfile := h.isFile_eq
  have hdir := h.isDir_eq
  rcases h with ⟨files, _, rfl⟩
  simp only [asked, startDir?, hfile, hdir]
  rfl

/-! ## A file apart -/

/-- A file that is found where it is listed, while neither it nor what is looked at for its
    configuration is the file at `loc`. -/
structure World.Apart (loc : Location) (w : World) (path : Path) : Prop where
  found : ∃ l, w.files.reach w.cwd path = .ok l ∧ l ≠ loc
  unseen : ∀ p ∈ ConfigFile.asked w path, w.files.reach w.cwd p ≠ .ok loc

/-- It stays apart while the contents of files change. -/
theorem World.Apart.of_sameTree {loc : Location} {w v : World} {path : Path} (h : w.Apart loc path)
    (hsame : w.SameTree v) : v.Apart loc path where
  found := by
    rw [hsame.reach_eq]
    exact h.found
  unseen := by
    intro p hp
    rw [ConfigFile.asked_eq hsame] at hp
    rw [hsame.reach_eq]
    exact h.unseen p hp

/-- The same setup with another configuration for the working directory. -/
def Batch.Setup.withBase (setup : Batch.Setup) (base : Config) : Batch.Setup :=
  { setup with base }

section Step

variable {loc : Location} {w w' : World} {path : Path} {setup : Batch.Setup} {base : Config}

/-- The configuration for a file does not depend on a file from which it is apart, nor on the
    configuration for the working directory. -/
theorem World.Apart.configFor_eq (hapart : w.Apart loc path) (h : w.AgreeExcept loc w')
    (hconfig : setup.line.config = none) :
    (setup.withBase base).configFor w' path = setup.configFor w path := by
  have hconfig' : (setup.withBase base).line.config = none := hconfig
  simp only [Batch.Setup.configFor, CommandLine.resolve, CommandLine.layers, hconfig, hconfig',
    Config.discovered_eq_of_asked h hapart.unseen]
  rfl

theorem World.Apart.openFile_eq (hapart : w.Apart loc path) (h : w.AgreeExcept loc w')
    (declared : Option String) (default : String) (output : Output) :
    FileHost.openFile w' path declared default output =
      FileHost.openFile w path declared default output := by
  rcases hapart.found with ⟨l, hreach, hl⟩
  simp only [FileHost.openFile, h.readFile_eq hreach hl]

/-- Shared states that differ in the world at one location, and in the warnings. -/
structure Shared.Alike (loc : Location) (s s' : Shared) : Prop where
  world : s.world.AgreeExcept loc s'.world
  tally : s'.tally = s.tally
  stdout : s'.effects.stdout = s.effects.stdout
  stderr : s'.effects.stderr = s.effects.stderr
  invocations : s'.effects.invocations = s.effects.invocations

/-- They stay so with the same effects. -/
theorem Shared.Alike.emit {s s' : Shared} (h : s.Alike loc s') (effects : Effects) :
    (s.emit effects).Alike loc (s'.emit effects) where
  world := h.world
  tally := h.tally
  stdout := congrArg (· ++ effects.stdout) h.stdout
  stderr := congrArg (· ++ effects.stderr) h.stderr
  invocations := congrArg (· ++ effects.invocations) h.invocations

end Step

/-- What the system does for the jobs of a batch does not depend on the file at a location, whatever
    the batch has written since it began. -/
def Batch.Services.Overlook (services : Batch.Services) (loc : Location) (start : World) : Prop :=
  ∀ (i : Nat) (v v' : World), start.SameTree v → v.AgreeExcept loc v' →
    services i v' = services i v

-- Nothing below has to evaluate a request or a replacement.
attribute [local irreducible] prepare FileHost.view FileHost.replaceTextUnder

section Request

variable {loc : Location} {w w' : World}

theorem World.AgreeExcept.surroundings (h : w.AgreeExcept loc w') : w.SameSurroundings w' := by
  rcases h with ⟨files, _, rfl⟩
  exact ⟨files, rfl⟩

/-- The request that is made for a file, with the label of its encoding. -/
def Batch.Setup.requestFor (setup : Batch.Setup) (w : World) (path : Path) :
    Except Fault Prepared := do
  let (config, host) ← setup.openFor w [] (some path)
  prepare w config setup.platform (host.view w) setup.line.mode

/-- The request for a file does not depend on a file from which it is apart. -/
theorem World.Apart.requestFor_eq {path : Path} (hapart : w.Apart loc path)
    (h : w.AgreeExcept loc w') (setup : Batch.Setup) (hconfig : setup.line.config = none)
    (base : Config) :
    (setup.withBase base).requestFor w' path = setup.requestFor w path := by
  have hopen : (setup.withBase base).openFor w' [] (some path) =
      setup.openFor w [] (some path) := by
    simp only [Batch.Setup.openFor, hapart.configFor_eq h hconfig, hapart.openFile_eq h]
    rfl
  unfold Batch.Setup.requestFor
  rw [hopen]
  refine bind_congr fun opened => ?_
  rcases opened with ⟨config, host⟩
  simp only
  rw [FileHost.view_eq h.surroundings, prepare_eq h.surroundings]
  rfl

end Request

/-- A step of a job does the same in both worlds, if its file is apart from where they differ. -/
theorem Job.step_alike {loc : Location} {setup : Batch.Setup} {start : World} {path : Path}
    {i : Nat} {job : Job} {s s' : Shared} (base : Config) (hconfig : setup.line.config = none)
    (hapart : start.Apart loc path) (hservices : setup.services.Overlook loc start)
    (hjob : job.IsFor setup start (some path)) (hsame : start.SameTree s.world)
    (h : s.Alike loc s') :
    (job.step (setup.withBase base) i s').1 = (job.step setup i s).1 ∧
      (job.step setup i s).2.Alike loc (job.step (setup.withBase base) i s').2 := by
  have hthere := hapart.of_sameTree hsame
  rcases job with ⟨name, stage⟩
  rcases hjob with ⟨_, hstage⟩
  unfold step
  cases hstage with
  | queued queued htarget =>
      obtain rfl := Option.some.inj htarget
      simp only [hthere.configFor_eq h.world hconfig]
      rcases setup.configFor s.world path with ⟨fault | config, warnings⟩
      · exact ⟨rfl, h.emit _⟩
      · exact ⟨rfl, h.emit _⟩
  | resolved resolved config htarget =>
      obtain rfl := Option.some.inj htarget
      simp only [Batch.Setup.withBase, hthere.openFile_eq h.world]
      cases FileHost.openFile s.world path setup.line.encoding config.defaultEncoding
          setup.line.output with
      | ok host => exact ⟨rfl, h⟩
      | error fault => exact ⟨rfl, h⟩
  | opened config host hserves =>
      simp only [Batch.Setup.withBase, hservices i _ _ hsame h.world,
        attemptWith_eq h.world.surroundings]
      cases (attemptWith (setup.services i s.world).start s.world config setup.platform
          (host.view s.world) setup.line.mode).action with
      | ok action => exact ⟨rfl, h.emit _⟩
      | error fault => exact ⟨rfl, h.emit _⟩
  | answered host action hserves hmode =>
      rcases hthere.found with ⟨l, hreach, hl⟩
      have hend := FileHost.concludeUnder_related (R := World.AgreeExcept loc)
        (r := (setup.services i s.world).refusals) h.world (h.world.writeFile_cases hreach hl)
        hserves.path_eq action setup.line.mode
      simp only [Batch.Setup.withBase, hservices i _ _ hsame h.world, hend.result, hend.effects]
      exact ⟨trivial, { (h.emit _) with world := hend.world }⟩
  | ended result =>
      simp only [Batch.Setup.withBase, h.tally]
      exact ⟨trivial, { (h.emit _) with tally := rfl }⟩
  | recorded result => exact ⟨rfl, h⟩

/-! ## All steps -/

/-- Batches with the same jobs that differ in the world at one location. -/
structure Batch.Alike (loc : Location) (b b' : Batch) : Prop where
  jobs : b'.jobs = b.jobs
  shared : b.shared.Alike loc b'.shared

section Batch

variable {loc : Location} {setup : Batch.Setup} {start : World} {paths : List Path} {b b' : Batch}

/-- A turn of one job does the same in both worlds. -/
theorem Batch.advance_alike (base : Config) (hconfig : setup.line.config = none)
    (hapart : ∀ path ∈ paths, start.Apart loc path)
    (hservices : setup.services.Overlook loc start)
    (hframe : b.Frame setup start (paths.map some)) (h : b.Alike loc b') (i : Nat) :
    (b.advance setup i).Alike loc (b'.advance (setup.withBase base) i) := by
  unfold advance
  rw [h.jobs]
  cases hget : b.jobs[i]? with
  | none => exact h
  | some job =>
      rcases hframe.jobs i job hget with ⟨target, htarget, hjob⟩
      rw [List.getElem?_map, Option.map_eq_some_iff] at htarget
      rcases htarget with ⟨path, hpath, rfl⟩
      rcases Job.step_alike (i := i) base hconfig (hapart path (List.mem_of_getElem? hpath))
        hservices hjob hframe.sameTree h.shared with ⟨hjobs, hshared⟩
      exact ⟨by simp only [hjobs], hshared⟩

/-- So do all turns of a schedule. -/
theorem Batch.follow_alike (base : Config) (hconfig : setup.line.config = none)
    (hapart : ∀ path ∈ paths, start.Apart loc path)
    (hservices : setup.services.Overlook loc start)
    (hframe : b.Frame setup start (paths.map some)) (h : b.Alike loc b') (schedule : List Nat) :
    (b.follow setup schedule).Alike loc (b'.follow (setup.withBase base) schedule) := by
  induction schedule generalizing b b' with
  | nil => exact h
  | cons i schedule ih =>
      exact ih (frame_advance hframe i) (advance_alike base hconfig hapart hservices hframe h i)

end Batch

/-! ## The program -/

/-- A configuration file that should not matter for what a command line lists. Two worlds differ in
    it and in nothing else. It is not listed, and no listed file has it among its own configuration
    files, nor is it that of the home directory. -/
structure CommandLine.Strays (line : CommandLine) (dir : Location) (w w' : World) : Prop where
  differ : w.AgreeExcept (ConfigFile.inDir dir) w'
  unlisted : ∀ f ∈ w.places line ++ w'.places line, f.2 ≠ ConfigFile.inDir dir
  apart : ∀ path ∈ w.collect line, w.Apart (ConfigFile.inDir dir) path

/-- Runs that did the same in two worlds that differ at one location. What they said may differ. -/
structure Completion.Alike (loc : Location) (done done' : Completion) : Prop where
  status : done'.status = done.status
  jobs : done'.jobs = done.jobs
  tally : done'.tally = done.tally
  invocations : done'.effects.invocations = done.effects.invocations
  stdout : done'.effects.stdout = done.effects.stdout
  world : done.world.AgreeExcept loc done'.world

section Program

variable {line : CommandLine} {dir : Location} {w w' : World} {services : Batch.Services}

/-- The same files are collected. -/
theorem CommandLine.Strays.collect_eq (h : line.Strays dir w w') :
    w'.collect line = w.collect line := by
  have hunlisted := List.forall_mem_append.mp h.unlisted
  rw [World.collect_eq_map_places, World.collect_eq_map_places,
    World.places_eq (by decide) h.differ hunlisted.1 hunlisted.2]

/-- Runs over the same files do the same, whatever the two configurations for the working directory
    are. -/
theorem CommandLine.Strays.runFilesUnder_alike (setup : Batch.Setup) {shared shared' : Shared}
    (h : setup.line.Strays dir shared.world shared'.world) (hconfig : setup.line.config = none)
    (hservices : setup.services.Overlook (ConfigFile.inDir dir) shared.world)
    (hshared : shared.Alike (ConfigFile.inDir dir) shared') (htally : shared.tally = {})
    (order : Batch.Order) (base : Config) :
    let done := runFilesUnder order setup shared
    let done' := runFilesUnder order (setup.withBase base) shared'
    done.Alike (ConfigFile.inDir dir) done' ∧ done'.effects.stderr = done.effects.stderr := by
  have hunlisted := List.forall_mem_append.mp h.unlisted
  have hcollect := h.collect_eq
  have hskipped : setup.line.skipped shared'.world = setup.line.skipped shared.world := by
    rw [skipped, skipped, World.missing_eq h.differ hunlisted.1 hunlisted.2]
  have hlast : ∀ tally, setup.line.lastLine shared'.world tally =
      setup.line.lastLine shared.world tally := by
    intro tally
    rw [lastLine, lastLine, hcollect]
  -- The jobs are the same, and each of them does the same.
  have hbegin : Batch.Alike (ConfigFile.inDir dir)
      ⟨(shared.world.collect setup.line).map Job.ofPath,
        shared.emit { stderr := setup.line.skipped shared.world }⟩
      ⟨(shared'.world.collect setup.line).map Job.ofPath,
        shared'.emit { stderr := setup.line.skipped shared'.world }⟩ := by
    rw [hcollect, hskipped]
    exact ⟨rfl, hshared.emit _⟩
  have hrun := Batch.follow_alike base hconfig h.apart hservices
    (Batch.frame_ofPath setup _ shared.world
      (shared.emit { stderr := setup.line.skipped shared.world }) rfl) hbegin
    (setup.line.orderUnder order (shared.world.collect setup.line).length)
  rw [runFilesUnder_eq order setup shared htally,
    runFilesUnder_eq order (setup.withBase base) shared' (hshared.tally.trans htally)]
  have hline : (setup.withBase base).line = setup.line := rfl
  simp only [hline, hlast, hcollect] at hrun ⊢
  rcases hrun with ⟨hjobs, hworld, htally', hstdout, hstderr, hinvocations⟩
  refine ⟨⟨?_, hjobs, htally', ?_, ?_, hworld⟩, ?_⟩
  · rw [htally']
  · exact congrArg (· ++ _) hinvocations
  · exact congrArg (· ++ _) hstdout
  · rw [htally']
    exact congrArg (· ++ _) hstderr

/-- A configuration file that strays does not matter for a run of the program, provided that the
    configuration for the working directory is usable with and without it, or neither. In whatever
    order the jobs take their steps and whatever the formatter answers, the same requests are made,
    the same is written and printed, and the status is the same. Where the configuration is usable,
    the program says the same as well, and only its warnings may differ. -/
theorem runProgramWith_of_strays (order : Batch.Order) (platform : Platform) (argv : List String)
    (input : StandardInput) (hparse : CommandLine.parse argv = .ok line)
    (hconfig : line.config = none) (hfiles : line.readsStdin = false)
    (hstrays : line.Strays dir w w')
    (hservices : services.Overlook (ConfigFile.inDir dir) w)
    (hbase : (line.resolve w' w'.cwdPath).1.isOk = (line.resolve w w.cwdPath).1.isOk) :
    let done := runProgramWith services order platform w argv input
    let done' := runProgramWith services order platform w' argv input
    done.Alike (ConfigFile.inDir dir) done' ∧
      ((line.resolve w w.cwdPath).1.isOk = true → done'.effects.stderr = done.effects.stderr) ∧
      ∀ path ∈ w.collect line, ∀ v v', w.SameTree v → v.AgreeExcept (ConfigFile.inDir dir) v' →
        ∀ base base' : Config,
          ({ line, platform, base := base', services } : Batch.Setup).requestFor v' path =
            ({ line, platform, base, services } : Batch.Setup).requestFor v path := by
  intro done done'
  have hdone : done = line.runWith services order platform w input := by
    simp only [done, runProgramWith, hparse]
  have hdone' : done' = line.runWith services order platform w' input := by
    simp only [done', runProgramWith, hparse]
  have hrun : done.Alike (ConfigFile.inDir dir) done' ∧
      ((line.resolve w w.cwdPath).1.isOk = true → done'.effects.stderr = done.effects.stderr) := by
    rw [hdone, hdone']
    unfold CommandLine.runWith
    rw [CommandLine.onlyExplains_of_files hfiles]
    simp only [Bool.false_eq_true, if_false]
    rcases hresolve : line.resolve w w.cwdPath with ⟨fault | base, warnings⟩ <;>
      rcases hresolve' : line.resolve w' w'.cwdPath with ⟨fault' | base', warnings'⟩ <;>
      rw [hresolve, hresolve'] at hbase
    · exact ⟨⟨rfl, rfl, rfl, rfl, rfl, hstrays.differ⟩, fun hok => absurd hok Bool.false_ne_true⟩
    · cases hbase
    · cases hbase
    · simp only [hfiles, Bool.false_eq_true, if_false]
      have hshared : Shared.Alike (ConfigFile.inDir dir) { world := w, effects := { warnings } }
          { world := w', effects := { warnings := warnings' } } :=
        ⟨hstrays.differ, rfl, rfl, rfl, rfl⟩
      have hsame := CommandLine.Strays.runFilesUnder_alike { line, platform, base, services }
        hstrays hconfig hservices hshared rfl order base'
      exact ⟨hsame.1, fun _ => hsame.2⟩
  refine ⟨hrun.1, hrun.2, fun path hpath v v' hsame hdiffer base base' => ?_⟩
  · have hapart := (hstrays.apart path hpath).of_sameTree hsame
    exact hapart.requestFor_eq hdiffer { line, platform, base, services } hconfig base'

end Program

/-! ## A directory in which the program is started -/

/-- A world in which the program is started in a directory that may hold a configuration file, with
    a file in another directory. -/
def World.startedIn (document : Option String) : World where
  files := ⟨[(["a"], .dir), (["b"], .dir), (["b", "m.py"], .file [] false)] ++
    (document.map fun text =>
      (ConfigFile.inDir ["a"], Entry.file (Utf8.encode text.toList) false)).toList⟩
  cwd := ["a"]
  env := .empty
  programs := fun _ => none

/-- A command line for the file in the other directory. -/
def CommandLine.elsewhere : CommandLine := { inputs := [⟨"/b/m.py"⟩] }

/-- The host for the file in the other directory. -/
def FileHost.elsewhere : FileHost :=
  ⟨some ⟨"/b/m.py"⟩, "", "utf-8", .inPlace, false, false⟩

/-- A system with a formatter that finds nothing to change. -/
def Batch.Services.leaving : Batch.Services := fun _ _ =>
  { start := fun r => .ok (⟨[], r.env, [], r.input⟩, ⟨0, [], Utf8.encode "unchanged".toList⟩) }

namespace World

section StartedIn

variable (document : Option String)

theorem unlinked_startedIn : (startedIn document).files.Unlinked := by
  cases document with
  | none => decide
  | some text =>
      exact List.forall_mem_append.mpr ⟨by decide, fun e he => by
        rw [List.mem_singleton.mp he]
        rfl⟩

theorem cwdPath_startedIn : (startedIn document).cwdPath = ⟨"/a"⟩ := by
  have hcwd : (startedIn document).cwd = ["a"] := rfl
  rw [cwdPath, hcwd]
  decide

theorem resolve_startedIn : (startedIn document).files.resolve ["a"] ⟨"/b/m.py"⟩ =
    .ok (["b", "m.py"], .file [] false) := by
  refine (FileSystem.resolve_eq_ok_iff _ _ _ _ _).mpr ⟨?_, ?_⟩
  · refine (FileSystem.reach_eq_ok_iff_follow (unlinked_startedIn document) (by decide) _).mpr ?_
    cases document <;> rfl
  · cases document <;> rfl

/-- The file that is named is the only one that is listed. -/
theorem places_startedIn :
    (startedIn document).places .elsewhere = [(⟨"/b/m.py"⟩, ["b", "m.py"])] := by
  have hinputs : CommandLine.elsewhere.inputs = [⟨"/b/m.py"⟩] := rfl
  have hcwd : (startedIn document).cwd = ["a"] := rfl
  rw [places, hinputs, List.flatMap_singleton, placesOf, hcwd, resolve_startedIn]

theorem collect_startedIn : (startedIn document).collect .elsewhere = [⟨"/b/m.py"⟩] := by
  rw [collect_eq_map_places, places_startedIn, List.map_singleton]

theorem missing_startedIn : (startedIn document).missing .elsewhere = [] := by
  have hinputs : CommandLine.elsewhere.inputs = [⟨"/b/m.py"⟩] := rfl
  have hcwd : (startedIn document).cwd = ["a"] := rfl
  simp only [missing, hinputs, filesOf?, hcwd, resolve_startedIn, Option.isNone_some,
    List.filter_cons, Bool.false_eq_true, if_false, List.filter_nil]

/-- Looking begins in the directory of the file, and in the directory in which the program is
    started. -/
theorem startDir?_startedIn :
    ConfigFile.startDir? (startedIn document) ⟨"/b/m.py"⟩ = some ⟨"/b"⟩ ∧
      ConfigFile.startDir? (startedIn document) ⟨"/a"⟩ = some ⟨"/a"⟩ := by
  have hfile : (startedIn document).files.seek ["a"] ⟨"/b/m.py"⟩ = some (.file [] false) := by
    cases document <;> rfl
  have hdir : (startedIn document).files.seek ["a"] ⟨"/a"⟩ = some .dir := by
    cases document <;> rfl
  have hcwd : (startedIn document).cwd = ["a"] := rfl
  have habs : ∀ p ∈ [(⟨"/b/m.py"⟩ : Path), ⟨"/a"⟩],
      (if p.text.isEmpty then p else Path.absoluteFrom ⟨"/a"⟩ p) = p := by decide
  rw [List.forall_mem_cons, List.forall_mem_singleton] at habs
  simp only [ConfigFile.startDir?_of_seek (unlinked_startedIn document), cwdPath_startedIn, hcwd,
    habs.1, habs.2, hfile, hdir]
  exact ⟨rfl, rfl⟩

end StartedIn

/-- The configuration file strays. -/
theorem strays_startedIn (text : String) :
    CommandLine.elsewhere.Strays ["a"] (startedIn none) (startedIn (some text)) where
  differ := ⟨(startedIn (some text)).files, ⟨rfl, by decide, rfl⟩, rfl⟩
  unlisted := by
    rw [places_startedIn, places_startedIn]
    decide
  apart := by
    rw [collect_startedIn, List.forall_mem_singleton]
    have hasked : ConfigFile.asked (startedIn none) ⟨"/b/m.py"⟩ =
        [⟨"/b/m.py"⟩, ⟨"/b/blackpipe.toml"⟩, ⟨"/blackpipe.toml"⟩] := by
      rw [ConfigFile.asked, (startDir?_startedIn none).1, cwdPath_startedIn]
      decide
    have hfollow : ∀ p ∈ [(⟨"/b/m.py"⟩ : Path), ⟨"/b/blackpipe.toml"⟩, ⟨"/blackpipe.toml"⟩],
        ¬p.text.isEmpty = true ∧ (startedIn none).files.follow (p.base ["a"])
          (FileSystem.pieces p) ≠ some (ConfigFile.inDir ["a"]) := by decide
    refine ⟨⟨["b", "m.py"], ?_, by decide⟩, fun p hp hreach => ?_⟩
    · exact ((FileSystem.resolve_eq_ok_iff _ _ _ _ _).mp (resolve_startedIn none)).1
    · rw [hasked] at hp
      rcases hfollow p hp with ⟨htext, hnot⟩
      exact hnot ((FileSystem.reach_eq_ok_iff_follow (unlinked_startedIn none) htext _).mp hreach)

/-- The configuration file is found where the program is started. Without it there is none. -/
theorem discover_startedIn (text : String) :
    ConfigFile.discover (startedIn (some text)) (startedIn (some text)).cwdPath =
        [⟨⟨"/a/blackpipe.toml"⟩, .project⟩] ∧
      ConfigFile.discover (startedIn none) (startedIn none).cwdPath = [] ∧
        ConfigFile.discover (startedIn none) ⟨"/b/m.py"⟩ = [] := by
  rw [cwdPath_startedIn, cwdPath_startedIn]
  refine ⟨?_, ?_, ?_⟩
  · exact ConfigFile.discover_of_seek (unlinked_startedIn _) rfl (startDir?_startedIn _).2 rfl
      (by decide)
  · exact ConfigFile.discover_of_seek (unlinked_startedIn none) rfl (startDir?_startedIn none).2 rfl
      (by decide)
  · exact ConfigFile.discover_of_seek (unlinked_startedIn none) rfl (startDir?_startedIn none).1 rfl
      (by decide)

/-- The file that is named is empty. -/
theorem openFile_startedIn :
    FileHost.openFile (startedIn none) ⟨"/b/m.py"⟩ none "utf-8" .inPlace = .ok .elsewhere := by
  have hread : (startedIn none).readFile ⟨"/b/m.py"⟩ = .ok [] := by
    refine (readFile_eq_ok_iff _ _ _).mpr ⟨rfl, ?_⟩
    exact (FileSystem.read_eq_ok_iff_seek (unlinked_startedIn none) _ _ _).mpr ⟨false, rfl⟩
  rw [FileHost.openFile, hread]
  rfl

end World

namespace CommandLine

/-- Without the configuration file, the configuration is the default one. -/
theorem resolve_startedIn :
    elsewhere.resolve (.startedIn none) (World.startedIn none).cwdPath = (.ok {}, []) ∧
      elsewhere.resolve (.startedIn none) ⟨"/b/m.py"⟩ = (.ok {}, []) := by
  have hchecked : (elsewhere.applyTo {}).checked = .ok {} := rfl
  rcases World.discover_startedIn "" with ⟨_, hbase, hfile⟩
  exact ⟨(resolve_of_discover_eq_nil rfl hbase).trans (congrArg (·, []) hchecked),
    (resolve_of_discover_eq_nil rfl hfile).trans (congrArg (·, []) hchecked)⟩

/-- The configuration file decides on the configuration for the directory in which the program is
    started. -/
theorem fst_resolve_startedIn {text : String} {settings : Settings}
    (htext : Utf8.decode? (Utf8.encode text.toList) = some text.toList)
    (hparse : Settings.parse? text = some settings) :
    (elsewhere.resolve (.startedIn (some text)) (World.startedIn (some text)).cwdPath).1 =
      (elsewhere.applyTo (({} : Config).overwritten [⟨.project, settings⟩])).checked := by
  have hread : Settings.read (.startedIn (some text)) ⟨"/a/blackpipe.toml"⟩ = .ok settings :=
    ConfigFile.read_of_seek (World.unlinked_startedIn _) rfl rfl htext hparse
  have hconfig : elsewhere.config = none := rfl
  simp only [resolve, layers, hconfig, Config.fst_discovered, (World.discover_startedIn text).1,
    ConfigFile.usable_cons_of_ok (.startedIn (some text)) ⟨⟨"/a/blackpipe.toml"⟩, .project⟩ []
      settings hread, Except.bind]
  rfl

end CommandLine

/-- A usable configuration file that strays. -/
theorem runProgramWith_of_strays_fast :
    let w := World.startedIn none
    let w' := World.startedIn (some "fast = true\n")
    (CommandLine.elsewhere.Strays w.cwd w w' ∧
      (CommandLine.elsewhere.resolve w w.cwdPath).1 = .ok {} ∧
      (CommandLine.elsewhere.resolve w' w'.cwdPath).1 = .ok { fast := true }) ∧
      let done := runProgramWith .leaving Batch.oneByOne .unix w ["blackpipe", "/b/m.py"] {}
      let done' := runProgramWith .leaving Batch.oneByOne .unix w' ["blackpipe", "/b/m.py"] {}
      done.Alike (ConfigFile.inDir w.cwd) done' ∧ done'.effects.stderr = done.effects.stderr := by
  intro w w'
  have hstrays : CommandLine.elsewhere.Strays w.cwd w w' := World.strays_startedIn "fast = true\n"
  have hresolve : (CommandLine.elsewhere.resolve w w.cwdPath).1 = .ok {} :=
    congrArg Prod.fst CommandLine.resolve_startedIn.1
  have hresolve' : (CommandLine.elsewhere.resolve w' w'.cwdPath).1 = .ok { fast := true } := by
    have htext : Utf8.decode? (Utf8.encode "fast = true\n".toList) =
        some "fast = true\n".toList := rfl
    have hchecked : (CommandLine.elsewhere.applyTo (({} : Config).overwritten
        [⟨.project, { fast := some true }⟩])).checked = .ok { fast := true } := rfl
    rw [← hchecked]
    exact CommandLine.fst_resolve_startedIn htext rfl
  -- From here on only what was said about the worlds counts.
  clear_value w w'
  have hbase : (CommandLine.elsewhere.resolve w' w'.cwdPath).1.isOk =
      (CommandLine.elsewhere.resolve w w.cwdPath).1.isOk := by
    rw [hresolve, hresolve']
    rfl
  have hparse : CommandLine.parse ["blackpipe", "/b/m.py"] = .ok .elsewhere := rfl
  have hsame := runProgramWith_of_strays Batch.oneByOne .unix ["blackpipe", "/b/m.py"] {} hparse
    rfl rfl hstrays (fun _ _ _ _ _ => rfl : Batch.Services.leaving.Overlook _ _) hbase
  exact ⟨⟨hstrays, hresolve, hresolve'⟩, hsame.1, hsame.2.1 (by rw [hresolve]; rfl)⟩

/-- A turn of the only job of a batch. -/
theorem Batch.follow_only {setup : Batch.Setup} {job next : Job} {s s' : Shared}
    (hstep : job.step setup 0 s = (next, s')) (rest : List Nat) :
    follow setup ⟨[job], s⟩ (0 :: rest) = follow setup ⟨[next], s'⟩ rest := by
  have hadvance : advance setup ⟨[job], s⟩ 0 = ⟨[next], s'⟩ := by
    rw [advance_of_get setup (i := 0) rfl, hstep, List.set_cons_zero]
  rw [follow, List.foldl_cons, hadvance, follow]

/-- Without the configuration file, the formatter sees the file once, and the run succeeds. -/
theorem CommandLine.runWith_startedIn :
    let done := elsewhere.runWith .leaving Batch.oneByOne .unix (.startedIn none) {}
    done.status = 0 ∧ done.effects.invocations.length = 1 := by
  intro done
  let setup : Batch.Setup :=
    { line := elsewhere, platform := .unix, base := {}, services := .leaving }
  let shared : Shared := { world := .startedIn none }
  -- The first two turns look into the world, the others do not.
  have hqueued : (Job.ofPath ⟨"/b/m.py"⟩).step setup 0 shared =
      (⟨"/b/m.py", .resolved ⟨"/b/m.py"⟩ {}⟩, shared) := by
    have hconfig : setup.configFor (.startedIn none) ⟨"/b/m.py"⟩ = (.ok {}, []) :=
      resolve_startedIn.2
    simp only [Job.step, Job.ofPath, shared, hconfig]
    rfl
  have hresolved : (⟨"/b/m.py", .resolved ⟨"/b/m.py"⟩ {}⟩ : Job).step setup 0 shared =
      (⟨"/b/m.py", .opened {} .elsewhere⟩, shared) := by
    have hencoding : setup.line.encoding = none := rfl
    have houtput : setup.line.output = .inPlace := rfl
    simp only [Job.step, hencoding, houtput, shared, World.openFile_startedIn]
    rfl
  have hrun : let b := Batch.follow setup ⟨[⟨"/b/m.py", .opened {} .elsewhere⟩], shared⟩ [0, 0, 0]
      b.shared.tally.exitStatus = 0 ∧ b.shared.effects.invocations.length = 1 := by
    decide +kernel
  rw [← Batch.follow_only hresolved, ← Batch.follow_only hqueued] at hrun
  -- Nothing is said about the arguments, and the file makes the only job.
  have hskipped : shared.emit { stderr := setup.line.skipped shared.world } = shared := by
    simp only [skipped, shared, setup, World.missing_startedIn]
    rfl
  have hjobs : (shared.world.collect setup.line).map Job.ofPath = [Job.ofPath ⟨"/b/m.py"⟩] :=
    congrArg (List.map Job.ofPath) (World.collect_startedIn none)
  have horder : Batch.oneByOne (shared.world.collect setup.line).length = [0, 0, 0, 0, 0] :=
    congrArg (fun paths => Batch.oneByOne paths.length) (World.collect_startedIn none)
  have hdone : done = runFilesUnder Batch.oneByOne setup shared := by
    have hfiles : elsewhere.readsStdin = false := rfl
    have hexplains := onlyExplains_of_files hfiles {}
    simp only [done, runWith, hexplains, resolve_startedIn.1, hfiles, Bool.false_eq_true, if_false]
    rfl
  rw [hdone, runFilesUnder_eq _ _ _ rfl, orderUnder_oneByOne, hjobs, horder, hskipped]
  generalize Batch.follow setup ⟨[Job.ofPath ⟨"/b/m.py"⟩], shared⟩ [0, 0, 0, 0, 0] = b at hrun ⊢
  exact ⟨hrun.1, (congrArg List.length (List.append_nil _)).trans hrun.2⟩

/-- A configuration file that strays and cannot be used, where the program is started, keeps it from
    formatting anything. -/
theorem runProgramWith_of_unusable_base :
    let w := World.startedIn none
    let w' := World.startedIn (some "line_length = 0\n")
    CommandLine.elsewhere.Strays w.cwd w w' ∧
      let done := runProgramWith .leaving Batch.oneByOne .unix w ["blackpipe", "/b/m.py"] {}
      let done' := runProgramWith .leaving Batch.oneByOne .unix w' ["blackpipe", "/b/m.py"] {}
      (done.status = 0 ∧ done.effects.invocations.length = 1) ∧
        done'.status = 1 ∧ done'.effects.invocations = [] := by
  intro w w'
  have hstrays : CommandLine.elsewhere.Strays w.cwd w w' :=
    World.strays_startedIn "line_length = 0\n"
  have hw : World.startedIn none = w := rfl
  have hdone := CommandLine.runWith_startedIn
  rw [hw] at hdone
  have hfault : (CommandLine.elsewhere.resolve w' w'.cwdPath).1 =
      .error (.invalidConfig Config.Defect.zeroLineLength.message) := by
    have htext : Utf8.decode? (Utf8.encode "line_length = 0\n".toList) =
        some "line_length = 0\n".toList := rfl
    have hsettings : Settings.parse? "line_length = 0\n" = some { lineLength := some 0 } := rfl
    have hchecked : (CommandLine.elsewhere.applyTo (({} : Config).overwritten
        [⟨.project, { lineLength := some 0 }⟩])).checked =
          .error (.invalidConfig Config.Defect.zeroLineLength.message) := rfl
    rw [← hchecked]
    exact CommandLine.fst_resolve_startedIn htext hsettings
  clear_value w'
  have hparse : CommandLine.parse ["blackpipe", "/b/m.py"] = .ok .elsewhere := rfl
  rcases hresolve : CommandLine.elsewhere.resolve w' w'.cwdPath with ⟨resolved, warnings⟩
  obtain rfl := (congrArg Prod.fst hresolve).symm.trans hfault
  simp only [runProgramWith, hparse]
  refine ⟨hstrays, hdone, ?_⟩
  have hexplains : CommandLine.elsewhere.onlyExplains {} = false := rfl
  simp only [CommandLine.runWith, hexplains, Bool.false_eq_true, if_false, hresolve]
  exact ⟨rfl, rfl⟩

end BufferFormat
