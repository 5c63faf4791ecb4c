import BufferFormat.Proofs.Config.Executable
import BufferFormat.Proofs.FileSystem.Spelling

/-!
# One file, one configuration

A file can be named in many ways, and which configuration it gets should not depend on that. The
files for a path are looked for by going up from its absolute form, so what counts are the steps of
that form. Without links and double dots they are the names that lead to the file, however the path
is spelled. Then the files that take part are that of the home directory and those in the
directories that contain the file, from the root down.

A double dot breaks this. It stays in the absolute form, where going up passes through the directory
in front of it, although the file is not inside. `discovered_of_double_dot` shows a directory that
is only mentioned on the way, and that decides on the configuration all the same.

## Main definitions

* `ConfigFile.around`: The files of the directories that contain a location.
* `strayWorld`: A world with a file beside a directory that has a configuration file.

## Theorems

* `ConfigFile.foldl_add_eq`: Different paths are added if they are files.
* `ConfigFile.discover_of_file`: The files for a path are those in what spells the directories
  around.
* `Config.discovered_of_spellings`: All spellings of a file have one configuration.
* `discovered_of_double_dot`: With a double dot there may be another one.
-/

namespace BufferFormat

/-! ## Spellings of a location -/

/-- A text holds a NUL exactly if a step does. -/
theorem World.hasNul_eq_any (p : Path) : World.hasNul p.text = p.steps.any World.hasNul := by
  rw [Bool.eq_iff_iff]
  simp only [World.hasNul, List.contains_iff_mem, List.any_eq_true]
  exact Path.mem_text_iff (by decide) (by decide) p

/-- A path that spells a location and ends in a step, and so asks for nothing but the location. -/
structure Path.SpellsFile (p : Path) (loc : Location) : Prop extends p.Spells loc where
  ends : p.EndsInStep

namespace Path.SpellsFile

variable {w : World} {p q : Path} {loc : Location}

/-- Whatever spells a location leads there. -/
theorem reach_eq (hlinks : w.files.Unlinked) (hloc : w.files.Through [] loc)
    (hp : p.SpellsFile loc) : w.files.reach w.cwd p = .ok loc :=
  FileSystem.reach_of_spells hlinks hp.toSpells hp.ends hloc _

theorem isFile_eq (hlinks : w.files.Unlinked) (hloc : w.files.Through [] loc)
    (hp : p.SpellsFile loc) (hq : q.SpellsFile loc) : w.isFile p = w.isFile q := by
  rw [World.isFile, World.isFile, FileSystem.isFile, FileSystem.isFile, FileSystem.resolve,
    FileSystem.resolve, hp.reach_eq hlinks hloc, hq.reach_eq hlinks hloc]

/-- All spellings of a location are read alike. -/
theorem read_eq (hlinks : w.files.Unlinked) (hloc : w.files.Through [] loc)
    (hp : p.SpellsFile loc) (hq : q.SpellsFile loc) : Settings.read w p = Settings.read w q := by
  have hfile : w.readFile p = w.readFile q := by
    rw [World.readFile, World.readFile, World.hasNul_eq_any, World.hasNul_eq_any, hp.steps_eq,
      hq.steps_eq, FileSystem.read, FileSystem.read, FileSystem.resolve, FileSystem.resolve,
      hp.reach_eq hlinks hloc, hq.reach_eq hlinks hloc]
  rw [Settings.read, Settings.read, World.readText, World.readText, hfile]

end Path.SpellsFile

namespace ConfigFile

/-! ## Files on the way -/

/-- The paths that are files and not there already, as files of projects. -/
def newOnes (w : World) (files : List ConfigFile) (paths : List Path) : List ConfigFile :=
  (paths.filter fun p => w.isFile p && !files.any (·.path.same p)).map (⟨·, .project⟩)

/-- Of paths of which no two are the same, those are added that are files and not there already. -/
theorem foldl_add_eq (w : World) {paths : List Path}
    (hdistinct : paths.Pairwise fun p q => p.same q = false) (files : List ConfigFile) :
    paths.foldl (add w) files = files ++ newOnes w files paths := by
  induction paths generalizing files with
  | nil => rw [List.foldl_nil, newOnes, List.filter_nil, List.map_nil, List.append_nil]
  | cons p paths ih =>
      rw [List.pairwise_cons] at hdistinct
      rw [List.foldl_cons, ih hdistinct.2, newOnes, newOnes, List.filter_cons, add]
      split
      · -- That the path is there now keeps no other one away.
        have hothers : ∀ q ∈ paths,
            (w.isFile q && !(files ++ [(⟨p, .project⟩ : ConfigFile)]).any (·.path.same q)) =
              (w.isFile q && !files.any (·.path.same q)) := by
          intro q hq
          rw [List.any_append, List.any_cons, List.any_nil, hdistinct.1 q hq, Bool.or_false,
            Bool.or_false]
        rw [List.filter_congr hothers, List.append_assoc, List.singleton_append, List.map_cons]
      · rfl

theorem pairwise_ne_inits {α : Type} (xs : List α) : xs.inits.Pairwise (· ≠ ·) := by
  induction xs with
  | nil => exact List.pairwise_singleton _ _
  | cons x xs ih =>
      rw [List.inits_cons, List.pairwise_cons, List.pairwise_map]
      refine ⟨fun _ hmem => ?_, ih.imp fun hne heq => hne (List.cons.inj heq).2⟩
      rcases List.mem_map.mp hmem with ⟨_, _, rfl⟩
      exact (List.cons_ne_nil _ _).symm

/-- The location of the configuration file in a directory. -/
def inDir (dir : Location) : Location :=
  dir ++ [fileName.text]

/-- The configuration file inside what spells a directory. -/
theorem spellsFile_join {p : Path} {dir : Location} (hp : p.Spells dir) :
    (p.join fileName).SpellsFile (inDir dir) where
  toSpells := hp.join rfl
  ends := Path.endsInStep_join rfl (Path.endsInStep_of_isStep (by decide))

/-- The configuration files on the way down to what spells a directory. -/
theorem spellsFile_ancestors {p : Path} {dir : Location} (hp : p.Spells dir) :
    List.Forall₂ (fun q above => q.SpellsFile (inDir above))
      (p.ancestors.reverse.map (·.join fileName)) dir.inits := by
  rw [List.forall₂_map_left_iff]
  exact (Path.ancestors_of_spells hp).imp fun _ _ hq => spellsFile_join hq

/-- Different directories have different configuration files. -/
theorem pairwise_of_spells {paths : List Path} {dirs : List Location}
    (h : List.Forall₂ (fun p dir => p.SpellsFile (inDir dir)) paths dirs)
    (hdirs : dirs.Pairwise (· ≠ ·)) : paths.Pairwise fun p q => p.same q = false := by
  induction h with
  | nil => exact .nil
  | @cons p dir paths dirs hp hpaths ih =>
      rw [List.pairwise_cons] at hdirs ⊢
      refine ⟨fun q hq => ?_, ih hdirs.2⟩
      rcases List.forall₂_iff_get.mp hpaths with ⟨hlength, hget⟩
      rcases List.get_of_mem hq with ⟨i, rfl⟩
      have hspells := hget i i.2 (hlength ▸ i.2)
      rw [← Bool.not_eq_true, hp.same_iff hspells.toSpells]
      intro heq
      exact hdirs.1 _ (List.get_mem _ _) (List.append_inj_left' heq rfl)

/-- The files of the directories that contain a location, from the root down, but for the one that
    is the user's. -/
def around (w : World) (loc : Location) : List ConfigFile :=
  newOnes w (inHome w) (loc.dropLast.inits.map fun dir => (FileSystem.pathOf dir).join fileName)

/-- What contains a location is a directory, and can hold a configuration file. -/
theorem dir_of_mem_inits {fs : FileSystem} {loc : Location} (hloc : fs.Through [] loc)
    (hne : loc ≠ []) {dir : Location} (hdir : dir ∈ loc.dropLast.inits) :
    (∃ name rest, loc = dir ++ name :: rest) ∧ fs.entry? dir = some .dir ∧
      fs.Through [] (inDir dir) := by
  rcases (List.mem_inits _ _).mp hdir with ⟨between, hbetween⟩
  have hsplit : loc = dir ++ (between ++ [loc.getLast hne]) := by
    rw [← List.append_assoc, hbetween, List.dropLast_append_getLast]
  have hinside : ∃ name rest, loc = dir ++ name :: rest := by
    cases between with
    | nil => exact ⟨_, [], hsplit⟩
    | cons name rest => exact ⟨name, rest ++ [loc.getLast hne], hsplit⟩
  rcases hinside with ⟨name, rest, rfl⟩
  rw [FileSystem.through_append, List.nil_append, FileSystem.Through] at hloc
  refine ⟨⟨name, rest, rfl⟩, hloc.2.1, ?_⟩
  rw [inDir, FileSystem.through_append, List.nil_append]
  exact ⟨hloc.1, hloc.2.1, by decide, trivial⟩

section OneFile

variable {w : World} {loc : Location} {data : List UInt8} {executable : Bool}

/-- The files for a path to a file are those of the home directory and those in what spells the
    directories that contain the file. -/
theorem discover_of_file (hlinks : w.files.Unlinked) (hcwd : w.Standing)
    (hfile : w.files.entry? loc = some (.file data executable)) {start : Path}
    (hup : .up ∉ start.components) (hstart : w.files.reach w.cwd start = .ok loc) :
    ∃ paths, List.Forall₂ (fun p dir => p.SpellsFile (inDir dir)) paths loc.dropLast.inits ∧
      discover w start = inHome w ++ newOnes w (inHome w) paths := by
  rw [Path.up_mem_components_iff] at hup
  rcases hcwd.absoluteFrom_of_file hlinks hup hstart hfile with ⟨hspells, hloc, hreach⟩
  have hne : loc ≠ [] := by
    rintro rfl
    cases hfile
  -- Looking begins in the directory of the file.
  have hisFile : w.isFile (Path.absoluteFrom w.cwdPath start) = true :=
    (FileSystem.isFile_iff _ _ _).mpr ⟨loc, data, executable, hreach, hfile⟩
  have htext : ¬start.text.isEmpty = true := by
    intro hempty
    rw [FileSystem.reach, if_pos hempty] at hstart
    cases hstart
  obtain ⟨dir, hparent, hdir⟩ : ∃ dir, (Path.absoluteFrom w.cwdPath start).parent? = some dir ∧
      dir.Spells loc.dropLast := by
    rcases Path.parent?_of_spells hspells with ⟨hnil, _⟩ | ⟨before, last, dir, rfl, hparent, hdir⟩
    · exact absurd hnil hne
    · rw [List.dropLast_concat]
      exact ⟨dir, hparent, hdir⟩
  have hpaths := spellsFile_ancestors hdir
  refine ⟨_, hpaths, ?_⟩
  simp only [discover, startDir?, if_neg htext, hisFile, if_true, hparent, Option.map_some,
    Option.getD_some]
  exact foldl_add_eq w (pairwise_of_spells hpaths (pairwise_ne_inits _)) _

/-- Paths that spell the same locations make the same settings. -/
theorem usable_of_spells (hlinks : w.files.Unlinked) (files : List ConfigFile)
    {paths others : List Path} {dirs : List Location}
    (hdirs : ∀ dir ∈ dirs, w.files.Through [] (inDir dir))
    (hpaths : List.Forall₂ (fun p dir => p.SpellsFile (inDir dir)) paths dirs)
    (hothers : List.Forall₂ (fun p dir => p.SpellsFile (inDir dir)) others dirs) :
    usable w (newOnes w files paths) = usable w (newOnes w files others) := by
  induction hpaths generalizing others with
  | nil =>
      cases hothers
      rfl
  | @cons p dir paths dirs hp hpaths ih =>
      cases hothers with
      | @cons q _ others _ hq hothers =>
          rw [List.forall_mem_cons] at hdirs
          have hrest := ih hdirs.2 hothers
          have hkeep : (w.isFile p && !files.any (·.path.same p)) =
              (w.isFile q && !files.any (·.path.same q)) := by
            simp only [hp.isFile_eq hlinks hdirs.1 hq, hp.same_congr hq.toSpells]
          unfold newOnes at hrest ⊢
          rw [List.filter_cons, List.filter_cons, hkeep]
          split
          · unfold usable at hrest ⊢
            simp only [List.map_cons, List.filterMap_cons, hp.read_eq hlinks hdirs.1 hq, hrest]
          · exact hrest

theorem usable_append (w : World) (files others : List ConfigFile) :
    usable w (files ++ others) = usable w files ++ usable w others :=
  List.filterMap_append

/-- What the files for a path to a file set is what the files of the home directory and of the
    directories around the file set. -/
theorem usable_discover_of_file (hlinks : w.files.Unlinked) (hcwd : w.Standing)
    (hfile : w.files.entry? loc = some (.file data executable)) {start : Path}
    (hup : .up ∉ start.components) (hstart : w.files.reach w.cwd start = .ok loc) :
    usable w (discover w start) = usable w (inHome w ++ around w loc) := by
  rw [Path.up_mem_components_iff] at hup
  have hne : loc ≠ [] := by
    rintro rfl
    cases hfile
  have hloc := (hcwd.absoluteFrom_of_file hlinks hup hstart hfile).2.1
  have hdirs : ∀ dir ∈ loc.dropLast.inits, w.files.Through [] (inDir dir) :=
    fun dir hdir => (dir_of_mem_inits hloc hne hdir).2.2
  have haround : List.Forall₂ (fun p dir => p.SpellsFile (inDir dir))
      (loc.dropLast.inits.map fun dir => (FileSystem.pathOf dir).join fileName)
      loc.dropLast.inits := by
    rw [List.forall₂_map_left_iff, List.forall₂_same]
    intro dir hdir
    refine spellsFile_join (FileSystem.spells_pathOf fun name hname => ?_)
    have hname' := (hdirs dir hdir).isName name (List.mem_append_left _ hname)
    exact hname'.1
  rw [← Path.up_mem_components_iff] at hup
  rcases discover_of_file hlinks hcwd hfile hup hstart with ⟨paths, hpaths, hdiscover⟩
  rw [hdiscover, usable_append, usable_append, around,
    usable_of_spells hlinks (inHome w) hdirs hpaths haround]

/-- A project's file that is found for a path to a file stands in a directory that contains the
    file. -/
theorem dir_of_mem_discover (hlinks : w.files.Unlinked) (hcwd : w.Standing)
    (hfile : w.files.entry? loc = some (.file data executable)) {start : Path}
    (hup : .up ∉ start.components) (hstart : w.files.reach w.cwd start = .ok loc)
    {file : ConfigFile} (hmem : file ∈ discover w start) (hproject : file.layer = .project) :
    ∃ dir name rest, loc = dir ++ name :: rest ∧ w.files.entry? dir = some .dir ∧
      w.files.reach w.cwd file.path = .ok (inDir dir) := by
  have hne : loc ≠ [] := by
    rintro rfl
    cases hfile
  have hloc := (hcwd.absoluteFrom_of_file hlinks
    (fun h => hup ((Path.up_mem_components_iff start).mpr h)) hstart hfile).2.1
  rcases discover_of_file hlinks hcwd hfile hup hstart with ⟨paths, hpaths, hdiscover⟩
  rw [hdiscover] at hmem
  rcases List.mem_append.mp hmem with hhome | hnew
  · rw [layer_of_mem_inHome hhome] at hproject
    cases hproject
  · rcases List.mem_map.mp hnew with ⟨p, hp, rfl⟩
    rcases List.forall₂_iff_get.mp hpaths with ⟨hlength, hget⟩
    rcases List.get_of_mem (List.mem_filter.mp hp).1 with ⟨i, rfl⟩
    have hspells := hget i i.2 (hlength ▸ i.2)
    rcases dir_of_mem_inits hloc hne (List.get_mem _ _) with ⟨⟨name, rest, heq⟩, hdir, hthrough⟩
    exact ⟨_, name, rest, heq, hdir, hspells.reach_eq hlinks hthrough⟩

end OneFile

end ConfigFile

/-! ## One configuration -/

/-- All spellings of a file without double dots have one configuration, if there are no links: the
    one that the file in the home directory and those in the directories around the file make, from
    the root down. No file in another directory takes part. -/
theorem Config.discovered_of_spellings {w : World} (hlinks : w.files.Unlinked)
    (hcwd : w.Standing) {loc : Location} {data : List UInt8} {executable : Bool}
    (hfile : w.files.entry? loc = some (.file data executable)) {p q : Path}
    (hp : w.files.reach w.cwd p = .ok loc) (hq : w.files.reach w.cwd q = .ok loc)
    (hpup : .up ∉ p.components) (hqup : .up ∉ q.components) :
    (discovered w p).1 = (discovered w q).1 ∧
      (discovered w p).1 = ({} : Config).overwritten
        (ConfigFile.usable w (ConfigFile.inHome w ++ ConfigFile.around w loc)) ∧
      ∀ file ∈ ConfigFile.discover w p, file.layer = .project →
        ∃ dir name rest, loc = dir ++ name :: rest ∧ w.files.entry? dir = some .dir ∧
          w.files.reach w.cwd file.path = .ok (ConfigFile.inDir dir) := by
  have hpfiles := ConfigFile.usable_discover_of_file hlinks hcwd hfile hpup hp
  have hqfiles := ConfigFile.usable_discover_of_file hlinks hcwd hfile hqup hq
  refine ⟨?_, ?_, fun file hmem => ?_⟩
  · rw [fst_discovered, fst_discovered, hpfiles, hqfiles]
  · rw [fst_discovered, hpfiles]
  · exact ConfigFile.dir_of_mem_discover hlinks hcwd hfile hpup hp hmem

/-! ## Looking without links -/

namespace ConfigFile

variable {w : World} {start dir : Path}

/-- Looking begins in the directory of a file, and in a directory itself. -/
theorem startDir?_of_seek (hlinks : w.files.Unlinked) (start : Path) :
    startDir? w start =
      let absolute := if start.text.isEmpty then start else Path.absoluteFrom w.cwdPath start
      if (w.files.seek w.cwd absolute).any (·.way?.isNone) then absolute.parent?
      else if w.files.seek w.cwd absolute == some .dir then some absolute
      else some w.cwdPath := by
  simp only [startDir?, World.isFile, World.isDir, FileSystem.isFile_eq_seek hlinks,
    FileSystem.isDir_eq_seek hlinks]

/-- Without a file in the home directory, the files for a path are those that are there on the
    way. -/
theorem discover_of_seek (hlinks : w.files.Unlinked) (hhome : home? w.env = none)
    (hstart : startDir? w start = some dir) {paths : List Path}
    (hpaths : dir.ancestors.reverse.map (·.join fileName) = paths)
    (hdistinct : paths.Pairwise fun p q => p.same q = false) :
    discover w start =
      (paths.filter fun p => (w.files.seek w.cwd p).any (·.way?.isNone)).map (⟨·, .project⟩) := by
  have hinHome : inHome w = [] := by
    rw [inHome, hhome]
    rfl
  rw [discover, hstart, Option.map_some, Option.getD_some, hpaths, hinHome,
    foldl_add_eq w hdistinct, List.nil_append, newOnes]
  simp only [World.isFile, FileSystem.isFile_eq_seek hlinks, List.any_nil, Bool.not_false,
    Bool.and_true]

/-- A file that is there makes the settings that its text says. -/
theorem read_of_seek (hlinks : w.files.Unlinked) {path : Path} {data : List UInt8}
    {executable : Bool} {text : String} {settings : Settings}
    (hnul : World.hasNul path.text = false)
    (hseek : w.files.seek w.cwd path = some (.file data executable))
    (htext : Utf8.decode? data = some text.toList) (hparse : Settings.parse? text = some settings) :
    Settings.read w path = .ok settings := by
  have hfile : w.readFile path = .ok data := (World.readFile_eq_ok_iff _ _ _).mpr
    ⟨hnul, (FileSystem.read_eq_ok_iff_seek hlinks _ _ _).mpr ⟨executable, hseek⟩⟩
  exact (Settings.read_eq_ok_iff _ _ _).mpr ⟨text, (World.readText_eq_ok_iff _ _ _).mpr
    ⟨data, text.toList, hfile, htext, String.ofList_toList.symm⟩, hparse⟩

end ConfigFile

/-! ## Double dots -/

/-- A world with a file in a directory that has a configuration file, and one beside the
    directory. -/
def strayWorld : World where
  files := ⟨[(["s"], .dir),
    (["s", "blackpipe.toml"], .file (Utf8.encode "fast = true\n".toList) false),
    (["s", "n.py"], .file [] false), (["m.py"], .file [] false)]⟩
  cwd := []
  env := .empty
  programs := fun _ => none

theorem unlinked_strayWorld : strayWorld.files.Unlinked := by
  decide

theorem standing_strayWorld : strayWorld.Standing :=
  ⟨rfl, trivial⟩

/-- Inside the directory, the spelling does not matter. -/
theorem discovered_of_spellings_inside :
    (Config.discovered strayWorld ⟨"s/n.py"⟩).1 =
        (Config.discovered strayWorld ⟨"//s/.//n.py"⟩).1 ∧
      (Config.discovered strayWorld ⟨"s/n.py"⟩).1 =
        ({} : Config).overwritten (ConfigFile.usable strayWorld
          (ConfigFile.inHome strayWorld ++ ConfigFile.around strayWorld ["s", "n.py"])) := by
  have hreach : ∀ p : Path, ¬p.text.isEmpty = true →
      strayWorld.files.follow (p.base []) (FileSystem.pieces p) = some ["s", "n.py"] →
      strayWorld.files.reach strayWorld.cwd p = .ok ["s", "n.py"] :=
    fun p hp => (FileSystem.reach_eq_ok_iff_follow unlinked_strayWorld hp _).mpr
  have hfile : strayWorld.files.entry? ["s", "n.py"] = some (.file [] false) := rfl
  have hboth := Config.discovered_of_spellings unlinked_strayWorld standing_strayWorld hfile
    (hreach ⟨"s/n.py"⟩ (by decide) rfl) (hreach ⟨"//s/.//n.py"⟩ (by decide) rfl)
    (by decide) (by decide)
  exact ⟨hboth.1, hboth.2.1⟩

/-- With a double dot, a directory that is only mentioned decides on the configuration of a file
    that is not inside. -/
theorem discovered_of_double_dot :
    (strayWorld.files.Unlinked ∧ strayWorld.Standing ∧ strayWorld.isFile ⟨"m.py"⟩ = true ∧
      strayWorld.SameFile ⟨"s/../m.py"⟩ ⟨"m.py"⟩) ∧
    (Config.discovered strayWorld ⟨"s/../m.py"⟩).1.fast = true ∧
    (Config.discovered strayWorld ⟨"m.py"⟩).1.fast = false := by
  refine ⟨⟨unlinked_strayWorld, standing_strayWorld, ?_, ["m.py"], ?_, ?_⟩, ?_, ?_⟩
  · rw [World.isFile, FileSystem.isFile_eq_seek unlinked_strayWorld]
    rfl
  · exact (FileSystem.reach_eq_ok_iff_follow unlinked_strayWorld (by decide) _).mpr rfl
  · exact (FileSystem.reach_eq_ok_iff_follow unlinked_strayWorld (by decide) _).mpr rfl
  · have hstart : ConfigFile.startDir? strayWorld ⟨"s/../m.py"⟩ = some ⟨"/s/.."⟩ := by
      rw [ConfigFile.startDir?_of_seek unlinked_strayWorld]
      decide
    have hdiscover : ConfigFile.discover strayWorld ⟨"s/../m.py"⟩ =
        [⟨⟨"/s/blackpipe.toml"⟩, .project⟩] :=
      ConfigFile.discover_of_seek unlinked_strayWorld rfl hstart rfl (by decide)
    have hread : Settings.read strayWorld ⟨"/s/blackpipe.toml"⟩ = .ok { fast := some true } := by
      have htext : Utf8.decode? (Utf8.encode "fast = true\n".toList) =
          some "fast = true\n".toList := rfl
      exact ConfigFile.read_of_seek unlinked_strayWorld rfl rfl htext rfl
    rw [Config.fst_discovered, hdiscover,
      ConfigFile.usable_cons_of_ok strayWorld ⟨⟨"/s/blackpipe.toml"⟩, .project⟩ []
        { fast := some true } hread]
    rfl
  · have hstart : ConfigFile.startDir? strayWorld ⟨"m.py"⟩ = some ⟨"/"⟩ := by
      rw [ConfigFile.startDir?_of_seek unlinked_strayWorld]
      decide
    have hdiscover : ConfigFile.discover strayWorld ⟨"m.py"⟩ = [] :=
      ConfigFile.discover_of_seek unlinked_strayWorld rfl hstart rfl (by decide)
    rw [Config.fst_discovered, hdiscover]
    rfl

end BufferFormat
