import BufferFormat.Proofs.Batch.Ending
import BufferFormat.Proofs.Batch.Frame
import Mathlib.Data.List.Basic

/-!
# What a run over a file looks at

A run over a file depends on less than the whole world. It looks at which files there are, which no
run of a batch changes, and at the contents of two kinds of files: its own, and the configuration
files that are found on the way down to it. The formatter is told nothing else, so whatever other
runs have written in the meantime, the ending stays the same.

`World.SameFor` is what two worlds must have in common for that, and every function that a run goes
through has its own lemma: the search for configuration files, the start of the formatter, and the
host with its one write. The formatter is found by asking which files can be executed, not what is
in them, so nothing has to be known about its own files.

## Main definitions

* `CommandLine.configFilesFor`: The configuration files that a run over a file goes by.
* `World.SameFor`: Two worlds that look the same to a run over a file.
* `World.SameSurroundings`: Two worlds that differ in nothing but their files.
* `FileHost.Step.Related`: Two steps of a host that differ in the world at most.
* `Ending.Agrees`: Two endings that are the same for a file.

## Theorems

* `Batch.Setup.configFor_eq`: The configuration for a file is the same in both worlds.
* `Formatter.start_eq`: The formatter does the same in both worlds.
* `FileHost.concludeUnder_related`, `FileHost.concludeUnder_agrees`: So does the host.
* `Stage.ending_agrees`: The ending is the same in both worlds.
-/

namespace BufferFormat

/-- The configuration files that a run over a file goes by. -/
def CommandLine.configFilesFor (line : CommandLine) (w : World) (path : Path) : List Path :=
  match line.config with
  | some file => [file]
  | none => (ConfigFile.discover w path).map (·.path)

/-- Two worlds that look the same to a run over a file. They differ in nothing but the contents of
    files, and neither in those of the file nor in those of the configuration files. -/
structure World.SameFor (line : CommandLine) (path : Path) (w w' : World) : Prop where
  sameTree : w.SameTree w'
  file : SameAt path w w'
  config : ∀ config ∈ line.configFilesFor w path, SameAt config w w'

/-! ## The configuration -/

section Config

variable {w w' : World}

/-- The same configuration files are found. -/
theorem ConfigFile.discover_eq (h : w.SameTree w') (start : Path) :
    discover w' start = discover w start := by
  have hfile := h.isFile_eq
  have hdir := h.isDir_eq
  rcases h with ⟨files, _, rfl⟩
  have hadd : add { w with files } = add w := by
    funext found path
    simp only [add, hfile]
  have hstart : startDir? { w with files } start = startDir? w start := by
    simp only [startDir?, hfile, hdir]
    rfl
  have hhome : inHome { w with files } = inHome w := by
    simp only [inHome, hfile]
  simp only [discover, hadd, hstart, hhome]

theorem CommandLine.configFilesFor_eq (h : w.SameTree w') (line : CommandLine) (path : Path) :
    line.configFilesFor w' path = line.configFilesFor w path := by
  unfold configFilesFor
  rw [ConfigFile.discover_eq h]

/-- They make the same settings, and there is the same to say about them. -/
theorem Config.discovered_eq (h : w.SameTree w') {start : Path}
    (hsame : ∀ file ∈ ConfigFile.discover w start, World.SameAt file.path w w') :
    discovered w' start = discovered w start := by
  unfold discovered
  rw [ConfigFile.discover_eq h]
  refine List.foldl_ext _ _ _ fun found file hfile => ?_
  have hread : Settings.read w' file.path = Settings.read w file.path := by
    rw [Settings.read, World.readText, h.readFile_eq (hsame file hfile)]
    rfl
  simp only [addLayer, hread]

/-- The configuration for a file is the same in both worlds. -/
theorem Batch.Setup.configFor_eq {setup : Batch.Setup} {path : Path}
    (h : World.SameFor setup.line path w w') :
    setup.configFor w' path = setup.configFor w path := by
  unfold configFor
  cases hconfig : setup.line.config with
  | some file => rfl
  | none =>
      have hsame := h.config
      simp only [CommandLine.configFilesFor, hconfig, List.forall_mem_map] at hsame
      simp only [CommandLine.resolve, CommandLine.layers, hconfig]
      rw [Config.discovered_eq h.sameTree hsame]

end Config

/-! ## The formatter -/

namespace Formatter

section Start

variable {fs fs' : FileSystem}

theorem executableAt_eq (hs : fs.SameTree fs') (cwd : Location) (p : Path) :
    executableAt fs' cwd p = executableAt fs cwd p := by
  unfold executableAt
  rcases hs.resolve_cases cwd p with heq | ⟨loc, data, data', executable, hold, hnew⟩
  · rw [heq]
  · rw [hold, hnew]
    cases executable <;> rfl

theorem searchIn_eq (hs : fs.SameTree fs') (cwd : Location) (program : Path) (dirs : List Path) :
    ∀ last refused, searchIn fs' cwd program dirs last refused =
      searchIn fs cwd program dirs last refused := by
  induction dirs with
  | nil => exact fun _ _ => rfl
  | cons dir dirs ih =>
      intro last refused
      unfold searchIn
      simp only [executableAt_eq hs, ih]

/-- The executable of a program is the same. -/
theorem findExecutable_eq (hs : fs.SameTree fs') (cwd : Location) (program : Path)
    (env : Environment) :
    findExecutable fs' cwd program env = findExecutable fs cwd program env := by
  simp only [findExecutable, executableAt_eq hs, searchIn_eq hs]

end Start

/-- The same program is started, in the same directory, and does the same. -/
theorem start_eq {w w' : World} (h : w.SameTree w') (r : Request) (platform : Platform) :
    start w' r platform = start w r platform := by
  have hfile := h.isFile_eq
  rcases h with ⟨files, hfiles, rfl⟩
  have hlaunch : ∀ program, prepareLaunch { w with files } program r.env platform =
      prepareLaunch w program r.env platform := by
    intro program
    simp only [prepareLaunch, locate, hfile]
  have henter : ∀ dir, enter { w with files } dir = enter w dir := by
    intro dir
    cases dir with
    | none => rfl
    | some dir =>
        simp only [enter]
        rcases hfiles.resolve_cases w.cwd dir with heq | ⟨loc, data, data', executable, hold, hnew⟩
        · rw [heq]
        · rw [hold, hnew]
          rfl
  have hspawn : ∀ launch args, spawn { w with files } launch args r = spawn w launch args r := by
    intro launch args
    simp only [spawn, henter, findExecutable_eq hfiles]
  simp only [start, hlaunch, hspawn]

end Formatter

/-- So the system does the same for a job. -/
theorem World.service_eq {w w' : World} (h : w.SameTree w') (platform : Platform) :
    w'.service platform = w.service platform := by
  have hstart : (Formatter.start w' · platform) = (Formatter.start w · platform) :=
    funext fun r => Formatter.start_eq h r platform
  simp only [service, hstart]

/-! ## The request -/

/-- Two worlds that differ in nothing but their files. -/
def World.SameSurroundings (w w' : World) : Prop :=
  ∃ files, w' = { w with files }

theorem World.SameTree.surroundings {w w' : World} (h : w.SameTree w') : w.SameSurroundings w' := by
  rcases h with ⟨files, _, rfl⟩
  exact ⟨files, rfl⟩

-- Nothing below has to evaluate a request or a replacement.
attribute [local irreducible] prepare FileHost.view FileHost.replaceTextUnder

section Request

variable {w w' : World}

/-- What a host shows does not depend on the files. -/
theorem FileHost.view_eq (h : w.SameSurroundings w') (host : FileHost) :
    host.view w' = host.view w := by
  rcases h with ⟨files, rfl⟩
  unfold view
  rfl

/-- Neither does a request. -/
theorem prepare_eq (h : w.SameSurroundings w') (config : Config) (platform : Platform)
    (view : View) (mode : Mode) :
    prepare w' config platform view mode = prepare w config platform view mode := by
  rcases h with ⟨files, rfl⟩
  unfold prepare
  rfl

/-- What a run comes to before the host acts depends on the files only by the formatter. -/
theorem attemptWith_eq (h : w.SameSurroundings w') (start : Formatter.Starter)
    (config : Config) (platform : Platform) (host : FileHost) (mode : Mode) :
    attemptWith start w' config platform (host.view w') mode =
      attemptWith start w config platform (host.view w) mode := by
  unfold attemptWith
  rw [host.view_eq h, prepare_eq h]

end Request

/-! ## The host -/

/-- Two steps of a host that are the same for a file. -/
structure FileHost.Step.Agrees {α : Type} (w : World) (path : Path) (s s' : Step α) : Prop where
  host : s'.host = s.host
  result : s'.result = s.result
  effects : s'.effects = s.effects
  file : ∀ loc, w.files.reach w.cwd path = .ok loc →
    s'.world.files.entry? loc = s.world.files.entry? loc

/-- Two steps of a host that are the same, but for worlds that are only related. -/
structure FileHost.Step.Related {α : Type} (R : World → World → Prop) (s s' : Step α) : Prop where
  host : s'.host = s.host
  result : s'.result = s.result
  effects : s'.effects = s.effects
  world : R s.world s'.world

/-- Whatever is written to a path leaves two worlds related, or it fails in both alike. -/
def World.WrittenAlike (R : World → World → Prop) (path : Path) (w w' : World) : Prop :=
  ∀ data : List UInt8,
    (∃ fault, w.writeFile path data = .error fault ∧ w'.writeFile path data = .error fault) ∨
      ∃ v v', w.writeFile path data = .ok v ∧ w'.writeFile path data = .ok v' ∧ R v v'

/-- Two endings that are the same for a file. -/
structure Ending.Agrees (w : World) (path : Path) (e e' : Ending) : Prop where
  result : e'.result = e.result
  effects : e'.effects = e.effects
  file : ∀ loc, w.files.reach w.cwd path = .ok loc →
    e'.world.files.entry? loc = e.world.files.entry? loc

section Host

variable {R : World → World → Prop} {r : Refusals} {w w' : World} {path : Path}

/-- A file that is the same in both worlds is opened alike. -/
theorem FileHost.openFile_eq (h : w.SameTree w') (hfile : World.SameAt path w w')
    (declared : Option String) (default : String) (output : Output) :
    openFile w' path declared default output = openFile w path declared default output := by
  simp only [openFile, h.readFile_eq hfile]

/-- A replacement puts the same into both files, or it fails in both worlds. -/
theorem FileHost.replaceTextUnder_related (h : R w w') (hwrite : World.WrittenAlike R path w w')
    {host : FileHost} (hpath : host.path = some path) (text : String) :
    (host.replaceTextUnder r w text).Related R (host.replaceTextUnder r w' text) := by
  unfold replaceTextUnder
  cases encodeText text host.encoding with
  | error fault => exact ⟨rfl, rfl, rfl, h⟩
  | ok bytes =>
      simp only [hpath]
      cases host.output with
      | inPlace =>
          -- A refusal does not look at the world.
          cases hrefusal : r.file with
          | some fault => exact ⟨rfl, rfl, rfl, h⟩
          | none =>
              simp only [World.writeFileUnless]
              rcases hwrite bytes with ⟨fault, hw, hw'⟩ | ⟨v, v', hw, hw', hv⟩
              · simp only [hw, hw']
                exact ⟨rfl, rfl, rfl, h⟩
              · simp only [hw, hw']
                exact ⟨rfl, rfl, rfl, hv⟩
      | stdout =>
          cases r.print bytes with
          | error fault => exact ⟨rfl, rfl, rfl, h⟩
          | ok effects => exact ⟨rfl, rfl, rfl, h⟩

/-- An action does the same in both worlds. -/
theorem FileHost.performUnder_related (h : R w w') (hwrite : World.WrittenAlike R path w w')
    {host : FileHost} (hpath : host.path = some path) (action : Action) :
    (host.performUnder r w action).Related R (host.performUnder r w' action) := by
  cases action with
  | reject status message => exact ⟨rfl, rfl, rfl, h⟩
  | keep => exact ⟨rfl, rfl, rfl, h⟩
  | showDiff label text =>
      simp only [performUnder]
      cases host.openPanelUnder r label text with
      | error fault => exact ⟨rfl, rfl, rfl, h⟩
      | ok effects => exact ⟨rfl, rfl, rfl, h⟩
  | replace text =>
      have hput := replaceTextUnder_related (r := r) h hwrite hpath text
      rw [performUnder_replace, performUnder_replace]
      refine ⟨hput.host, ?_, hput.effects, hput.world⟩
      rw [hput.result]

/-- So does the end of a run. -/
theorem FileHost.concludeUnder_related (h : R w w') (hwrite : World.WrittenAlike R path w w')
    {host : FileHost} (hpath : host.path = some path) (action : Action) (mode : Mode) :
    (host.concludeUnder r w action mode).Related R (host.concludeUnder r w' action mode) := by
  have hact := performUnder_related (r := r) h hwrite hpath action
  unfold concludeUnder
  cases mode with
  | diff => exact hact
  | format =>
      simp only [hact.result, hact.host]
      cases hresult : (host.performUnder r w action).result with
      | error fault => exact hact
      | ok applied =>
          simp only
          cases (host.performUnder r w action).host.finishUnder r applied with
          | error fault => exact ⟨rfl, rfl, hact.effects, hact.world⟩
          | ok effects =>
              refine ⟨rfl, rfl, ?_, hact.world⟩
              simp only [hact.effects]

/-- A file with the same contents in both worlds holds the same after the end of a run. -/
theorem FileHost.concludeUnder_agrees (r : Refusals) (h : w.SameTree w')
    (hfile : World.SameAt path w w') {host : FileHost} (hpath : host.path = some path)
    (action : Action) (mode : Mode) :
    (host.concludeUnder r w action mode).Agrees w path
      (host.concludeUnder r w' action mode) := by
  have hend := concludeUnder_related (r := r) (R := fun v v' => ∀ loc,
    w.files.reach w.cwd path = .ok loc → v'.files.entry? loc = v.files.entry? loc) hfile
    (h.writeFile_cases hfile) hpath action mode
  exact ⟨hend.host, hend.result, hend.effects, hend.world⟩

end Host

/-! ## The ending -/

section Ending

variable {w w' : World} {path : Path} {setup : Batch.Setup} {service : Service}

/-- What comes before an ending does not matter for whether it is the same. -/
theorem Ending.Agrees.after {e e' : Ending} (h : e.Agrees w path e') (effects : Effects) :
    (e.after effects).Agrees w path (e'.after effects) :=
  ⟨h.result, congrArg effects.andThen h.effects, h.file⟩

/-- A run that stops leaves both worlds as they are. -/
theorem Ending.agrees_stopped (hfile : World.SameAt path w w') (result : Except Fault Applied) :
    Agrees w path ⟨result, {}, w⟩ ⟨result, {}, w'⟩ :=
  ⟨rfl, rfl, hfile⟩

theorem Ending.ofAnswered_agrees (h : World.SameFor setup.line path w w') {host : FileHost}
    (hpath : host.path = some path) (action : Action) :
    (ofAnswered setup service w host action).Agrees w path
      (ofAnswered setup service w' host action) := by
  have hend := FileHost.concludeUnder_agrees service.refusals h.sameTree h.file hpath action
    setup.line.mode
  unfold ofAnswered
  exact ⟨hend.result, hend.effects, hend.file⟩

theorem Ending.ofOpened_agrees (h : World.SameFor setup.line path w w') {host : FileHost}
    (hpath : host.path = some path) (config : Config) :
    (ofOpened setup service w config host).Agrees w path
      (ofOpened setup service w' config host) := by
  unfold ofOpened
  simp only [attemptWith_eq h.sameTree.surroundings]
  cases (attemptWith service.start w config setup.platform (host.view w)
    setup.line.mode).action with
  | error fault => exact (agrees_stopped h.file _).after _
  | ok action => exact (ofAnswered_agrees h hpath action).after _

theorem Ending.ofResolved_agrees (h : World.SameFor setup.line path w w') (config : Config) :
    (ofResolved setup service w path config).Agrees w path
      (ofResolved setup service w' path config) := by
  unfold ofResolved
  rw [FileHost.openFile_eq h.sameTree h.file]
  cases hopen : FileHost.openFile w path setup.line.encoding config.defaultEncoding
      setup.line.output with
  | error fault => exact agrees_stopped h.file _
  | ok host =>
      rcases FileHost.openFile_eq_ok hopen with ⟨bytes, _, hbytes⟩
      have hpath : ({ host with silent := setup.line.silent } : FileHost).path = some path :=
        (FileHost.ofBytes_eq_ok hbytes).2.1
      exact ofOpened_agrees h hpath config

theorem Ending.ofQueued_agrees (h : World.SameFor setup.line path w w') :
    (ofQueued setup service w path).Agrees w path (ofQueued setup service w' path) := by
  unfold ofQueued
  rw [Batch.Setup.configFor_eq h]
  cases (setup.configFor w path).1 with
  | error fault => exact (agrees_stopped h.file _).after _
  | ok config => exact (ofResolved_agrees h config).after _

/-- The ending of a job for a file is the same in two worlds that look the same to it. -/
theorem Stage.ending_agrees {first : World} {stage : Stage}
    (hstage : stage.IsFor setup first (some path)) (h : World.SameFor setup.line path w w') :
    (stage.ending setup service w).Agrees w path (stage.ending setup service w') := by
  unfold Stage.ending
  cases hstage with
  | queued queued hpath =>
      cases hpath
      exact Ending.ofQueued_agrees h
  | resolved resolved config hpath =>
      cases hpath
      exact Ending.ofResolved_agrees h config
  | opened config host hserves => exact Ending.ofOpened_agrees h hserves.path_eq config
  | answered host action hserves _ => exact Ending.ofAnswered_agrees h hserves.path_eq action
  | ended result => exact Ending.agrees_stopped h.file result
  | recorded result => exact Ending.agrees_stopped h.file result

end Ending

end BufferFormat
