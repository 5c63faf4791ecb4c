import BufferFormat.Proofs.FileSystem
import BufferFormat.Proofs.Host.Writing
import BufferFormat.Program

/-!
# What a run of the program leaves alone

A run may write to many files, side by side and in any order. The module says which files it can
change: those that the command line named, and of them only the ones whose own run ended in a
replacement. If diffs or results on standard output are wanted, or if standard input is formatted,
it changes none.

A single step of a job either leaves the world as it is, or it writes the file of the job and ends
with the result that says so. That a diff changes nothing is not seen from the host. The host of a
diff could write in place like any other, but a verdict on a diff never asks for a replacement. The
step lemma therefore has to know how a job came to its action, and `Job.IsFor` carries that along
from stage to stage.

Little is assumed about the system. The formatter writes no files, but it may answer anything, and
otherwise each time it is started. Any write may be refused, as for a file that must not be written,
and all that is asked is that a refusal leaves the file as it is. Both are the business of the
`Service` to a job.

What a job knows about its file is said about the world in which the batch began. Jobs only ever
replace the contents of files that are there, so a path leads to the same file all along, and what
one job does takes nothing away from what is known about the others.

## Main definitions

* `Job.result?`: What a job came to.
* `FileHost.Serves`, `Job.IsFor`: A host and a job for a file, at any stage.
* `Job.Touches`: What a step of a job can do to the world.
* `Reformats`: A file whose job ended in a replacement.
* `Batch.Frame`: Nothing else was changed.

## Theorems

* `FileHost.concludeUnder_cases`: The end of a run writes the file of the host or changes nothing.
* `Job.isFor_and_touches_step`, `Job.result?_step`: What a step of a job preserves, and what it
  does.
* `Batch.frame_advance`, `Batch.frame_follow`: Nothing else is changed by a step of a batch, or by
  all steps of a schedule.
* `runProgramWith_frame`: The same for a run of the program.
-/

namespace BufferFormat

/-! ## One job -/

/-- What a job came to, once it came to something. -/
def Job.result? (job : Job) : Option (Except Fault Applied) :=
  match job.stage with
  | .ended result => some result
  | .recorded result => some result
  | _ => none

/-- A host of a job for a file, or for standard input where there is no path. Its file was there
    when the batch began, and it is written in place only if the command line has it so. -/
structure FileHost.Serves (setup : Batch.Setup) (w : World) (target : Option Path)
    (h : FileHost) : Prop where
  path_eq : h.path = target
  inPlace : h.output = .inPlace → setup.line.output = .inPlace
  there : ∀ path, target = some path → ∃ loc data executable,
    w.files.reach w.cwd path = .ok loc ∧ w.files.entry? loc = some (.file data executable)

/-- A stage of a job for a file. Only a format comes to a replacement. -/
inductive Stage.IsFor (setup : Batch.Setup) (w : World) (target : Option Path) : Stage → Prop where
  | queued (path : Path) (htarget : target = some path) : IsFor setup w target (.queued path)
  | resolved (path : Path) (config : Config) (htarget : target = some path) :
      IsFor setup w target (.resolved path config)
  | opened (config : Config) (host : FileHost) (hserves : host.Serves setup w target) :
      IsFor setup w target (.opened config host)
  | answered (host : FileHost) (action : Action) (hserves : host.Serves setup w target)
      (hmode : ∀ text, action = .replace text → setup.line.mode = .format) :
      IsFor setup w target (.answered host action)
  | ended (result : Except Fault Applied) : IsFor setup w target (.ended result)
  | recorded (result : Except Fault Applied) : IsFor setup w target (.recorded result)

/-- A job for a file in a batch that began in a world, or for standard input. -/
structure Job.IsFor (setup : Batch.Setup) (w : World) (target : Option Path) (job : Job) :
    Prop where
  name_eq : job.name = FileHost.nameOf target
  stage : job.stage.IsFor setup w target

/-- What a step of a job can do to the world: nothing, or it writes the file of the job, which was
    there when the batch began, and is at its end. -/
inductive Job.Touches (setup : Batch.Setup) (start w : World) (target : Option Path) (job : Job) :
    World → Prop where
  | nothing : Touches setup start w target job w
  | file (w' : World) (path : Path) (loc : Location) (old bytes : List UInt8) (executable : Bool)
      (htarget : target = some path) (hreach : start.files.reach start.cwd path = .ok loc)
      (hfile : start.files.entry? loc = some (.file old executable))
      (hmode : setup.line.mode = .format) (houtput : setup.line.output = .inPlace)
      (hwrite : w.writeFile path bytes = .ok w')
      (hresult : job.result? = some (.ok .reformatted)) : Touches setup start w target job w'

/-- A replacement leaves the world as it is, or it wrote the file of the host. A refusal is one way
    to leave it. -/
theorem FileHost.replaceTextUnder_writes (r : Refusals) (h : FileHost) (w : World)
    (text : String) :
    (h.replaceTextUnder r w text).world = w ∨
      ∃ bytes path, h.path = some path ∧ h.output = .inPlace ∧
        w.writeFile path bytes = .ok (h.replaceTextUnder r w text).world ∧
        (h.replaceTextUnder r w text).result = .ok () := by
  cases henc : encodeText text h.encoding with
  | error fault =>
      refine Or.inl ?_
      unfold replaceTextUnder
      simp only [henc]
  | ok bytes =>
      -- Only with a path and in place does the text go to a file.
      by_cases hfile : ∃ path, h.path = some path ∧ h.output = .inPlace
      · rcases hfile with ⟨path, hpath, hout⟩
        rw [replaceTextUnder_of_file r h w text bytes path henc hpath hout]
        cases hwrite : w.writeFileUnless r.file path bytes with
        | error fault => exact Or.inl rfl
        | ok w' =>
            have hwritten := World.writeFile_of_writeFileUnless hwrite
            exact Or.inr ⟨bytes, path, hpath, hout, hwritten, rfl⟩
      · have hnone : h.output = .inPlace → h.path = none := by
          intro hout
          cases hpath : h.path with
          | none => rfl
          | some path => exact absurd ⟨path, hpath, hout⟩ hfile
        rw [replaceTextUnder_of_not_file r h w text bytes henc hnone]
        refine Or.inl ?_
        cases r.print bytes with
        | error fault => rfl
        | ok effects => rfl

/-- An action that asks for a replacement is one, and comes to it if it succeeds. -/
theorem FileHost.performUnder_replace (r : Refusals) (h : FileHost) (w : World) (text : String) :
    h.performUnder r w (.replace text) =
      ⟨(h.replaceTextUnder r w text).host, (h.replaceTextUnder r w text).world,
        (h.replaceTextUnder r w text).effects,
        (h.replaceTextUnder r w text).result.map fun _ => .reformatted⟩ := by
  unfold performUnder
  simp only [Action.applied]

/-- An action that asks for anything else leaves the world as it is. -/
theorem FileHost.world_performUnder (r : Refusals) (h : FileHost) (w : World) {action : Action}
    (hkeeps : ∀ text, action ≠ .replace text) : (h.performUnder r w action).world = w := by
  cases action with
  | reject status message => rfl
  | keep => rfl
  | showDiff label text =>
      simp only [performUnder]
      cases h.openPanelUnder r label text with
      | error fault => rfl
      | ok effects => rfl
  | replace text => exact absurd rfl (hkeeps text)

/-- Nothing is printed after a replacement, so nothing can fail there. -/
theorem FileHost.finishUnder_reformatted (r : Refusals) (h : FileHost) :
    h.finishUnder r .reformatted = .ok .none := by
  rcases h with ⟨path, text, encoding, output, silent, replaced⟩
  cases output with
  | inPlace => rfl
  | stdout =>
      cases replaced with
      | true => rfl
      | false => rfl

/-- Ending a run after an action changes no file, and it does not turn a replacement into
    something else. -/
theorem FileHost.concludeUnder_performUnder (r : Refusals) (h : FileHost) (w : World)
    (action : Action) (mode : Mode) :
    (h.concludeUnder r w action mode).world = (h.performUnder r w action).world ∧
      ((h.performUnder r w action).result = .ok .reformatted →
        (h.concludeUnder r w action mode).result = .ok .reformatted) := by
  unfold concludeUnder
  cases mode with
  | diff => exact ⟨rfl, fun hresult => hresult⟩
  | format =>
      cases hresult : (h.performUnder r w action).result with
      | error fault =>
          simp only [hresult]
          exact ⟨trivial, fun hsame => hsame⟩
      | ok applied =>
          cases hfinish : (h.performUnder r w action).host.finishUnder r applied with
          | ok effects =>
              simp only [hresult, hfinish]
              exact ⟨trivial, fun hsame => hsame⟩
          | error fault =>
              simp only [hresult, hfinish]
              refine ⟨trivial, fun hsame => ?_⟩
              cases hsame
              rw [finishUnder_reformatted] at hfinish
              cases hfinish

/-- A replacement that is written is what the run comes to. -/
theorem FileHost.concludeUnder_replace {r : Refusals} {h : FileHost} {w w' : World} {text : String}
    {bytes : List UInt8} {path : Path} (henc : encodeText text h.encoding = .ok bytes)
    (hpath : h.path = some path) (hout : h.output = .inPlace)
    (hwrite : w.writeFileUnless r.file path bytes = .ok w') (mode : Mode) :
    (h.concludeUnder r w (.replace text) mode).result = .ok .reformatted ∧
      (h.concludeUnder r w (.replace text) mode).world = w' := by
  rcases h.concludeUnder_performUnder r w (.replace text) mode with ⟨hworld, hresult⟩
  have hstep : h.replaceTextUnder r w text =
      ⟨{ h with text, replaced := true }, w', .none, .ok ()⟩ := by
    rw [replaceTextUnder_of_file r h w text bytes path henc hpath hout, hwrite]
  rw [performUnder_replace, hstep] at hworld hresult
  exact ⟨hresult rfl, hworld⟩

/-- The end of a run leaves the world as it is, or it was a replacement that wrote the file of the
    host. -/
theorem FileHost.concludeUnder_cases (r : Refusals) (h : FileHost) (w : World) (action : Action)
    (mode : Mode) :
    (h.concludeUnder r w action mode).world = w ∨
      ∃ text bytes path, action = .replace text ∧ h.path = some path ∧ h.output = .inPlace ∧
        w.writeFile path bytes = .ok (h.concludeUnder r w action mode).world ∧
        (h.concludeUnder r w action mode).result = .ok .reformatted := by
  rcases h.concludeUnder_performUnder r w action mode with ⟨hworld, hresult⟩
  rw [hworld]
  by_cases hreplace : ∃ text, action = .replace text
  · rcases hreplace with ⟨text, rfl⟩
    simp only [performUnder_replace] at hresult ⊢
    rcases h.replaceTextUnder_writes r w text with hsame | ⟨bytes, path, hpath, hout, hwrite, hok⟩
    · exact Or.inl hsame
    · refine Or.inr ⟨text, bytes, path, rfl, hpath, hout, hwrite, hresult ?_⟩
      rw [hok]
      rfl
  · exact Or.inl (h.world_performUnder r w fun text htext => hreplace ⟨text, htext⟩)

/-- Only a format comes to a replacement. -/
theorem attemptWith_replace {start : Formatter.Starter} {w : World} {config : Config}
    {platform : Platform} {view : View} {mode : Mode} {text : String}
    (h : (attemptWith start w config platform view mode).action = .ok (.replace text)) :
    mode = .format := by
  rcases (attemptWith_action_eq_ok_iff _ _ _ _ _ _ _).mp h with ⟨prepared, outcome, _, hcalls⟩
  cases hcalls with
  | replace _ _ _ hmode _ => exact hmode

section Job

variable {setup : Batch.Setup} {start : World} {target : Option Path} {i : Nat} {job : Job}
  {s : Shared}

/-- A host that was opened on the file of a job serves it, in whatever way other jobs have written
    files since the batch began. -/
theorem FileHost.serves_of_openFile {w : World} {path : Path} {declared : Option String}
    {default : String} {h : FileHost} (hsame : start.SameTree w)
    (hopen : openFile w path declared default setup.line.output = .ok h) :
    h.Serves setup start (some path) := by
  rcases openFile_eq_ok hopen with ⟨bytes, hread, hbytes⟩
  rcases ofBytes_eq_ok hbytes with ⟨_, hpath, houtput⟩
  refine ⟨hpath, fun h => houtput ▸ h, ?_⟩
  rintro _ ⟨⟩
  rcases (World.readFile_eq_ok_iff _ _ _).mp hread with ⟨_, hread⟩
  rcases (FileSystem.read_eq_ok_iff _ _ _ _).mp hread with ⟨loc, executable, hreach, hfile⟩
  rcases hsame.symm.reach_file hreach hfile with ⟨hreach, data, hfile⟩
  exact ⟨loc, data, executable, hreach, hfile⟩

/-- A step leaves a job a job for its file, and it writes that file or nothing. -/
theorem Job.isFor_and_touches_step (hjob : job.IsFor setup start target)
    (hsame : start.SameTree s.world) :
    (job.step setup i s).1.IsFor setup start target ∧
      Touches setup start s.world target (job.step setup i s).1 (job.step setup i s).2.world := by
  rcases job with ⟨name, stage⟩
  rcases hjob with ⟨hname, hstage⟩
  unfold step
  cases hstage with
  | queued path htarget =>
      rcases hconfig : setup.configFor s.world path with ⟨fault | config, warnings⟩
      · simp only [hconfig]
        exact ⟨⟨hname, .ended _⟩, .nothing⟩
      · simp only [hconfig]
        exact ⟨⟨hname, .resolved path config htarget⟩, .nothing⟩
  | resolved path config htarget =>
      cases hopen : FileHost.openFile s.world path setup.line.encoding config.defaultEncoding
          setup.line.output with
      | error fault =>
          simp only [hopen]
          exact ⟨⟨hname, .ended _⟩, .nothing⟩
      | ok host =>
          simp only [hopen]
          have hserves := htarget ▸ FileHost.serves_of_openFile hsame hopen
          exact ⟨⟨hname, .opened config _ ⟨hserves.path_eq, hserves.inPlace, hserves.there⟩⟩,
            .nothing⟩
  | opened config host hserves =>
      -- The mode of the command line is the one that the formatter was asked in.
      cases haction : (attemptWith (setup.services i s.world).start s.world config setup.platform
          (host.view s.world) setup.line.mode).action with
      | error fault =>
          simp only [haction]
          exact ⟨⟨hname, .ended _⟩, .nothing⟩
      | ok action =>
          simp only [haction]
          refine ⟨⟨hname, .answered host action hserves fun text htext => ?_⟩, .nothing⟩
          rw [htext] at haction
          exact attemptWith_replace haction
  | answered host action hserves hmode =>
      refine ⟨⟨hname, .ended _⟩, ?_⟩
      rcases host.concludeUnder_cases (setup.services i s.world).refusals s.world action
        setup.line.mode with hkept | ⟨text, bytes, path, htext, hpath, hout, hwrite, hresult⟩
      · simp only [hkept]
        exact .nothing
      · -- The file that is written is that of the host, and was there from the beginning.
        have htarget := hserves.path_eq.symm.trans hpath
        rcases hserves.there path htarget with ⟨loc, old, executable, hreach, hfile⟩
        exact .file _ path loc old bytes executable htarget hreach hfile (hmode text htext)
          (hserves.inPlace hout) hwrite (congrArg some hresult)
  | ended result => exact ⟨⟨hname, .recorded _⟩, .nothing⟩
  | recorded result => exact ⟨⟨hname, .recorded _⟩, .nothing⟩

/-- What a job came to stays. -/
theorem Job.result?_step {result : Except Fault Applied} (h : job.result? = some result) :
    (job.step setup i s).1.result? = some result := by
  rcases job with ⟨name, stage⟩
  cases stage with
  | ended _ => exact h
  | recorded _ => exact h
  | queued path => cases h
  | resolved path config => cases h
  | opened config host => cases h
  | answered host action => cases h

/-- Where a step wrote, it replaced contents. -/
theorem Job.Touches.sameTree {w w' : World} (h : Touches setup start w target job w')
    (hsame : start.SameTree w) : w.SameTree w' := by
  cases h with
  | nothing => exact .refl w
  | file _ path loc old bytes executable _ hreach hfile _ _ hwrite _ =>
      rcases hsame.reach_file hreach hfile with ⟨hreach, data, hfile⟩
      exact (World.sameTree_of_writeFile hreach hfile hwrite).1

/-- What a step changed is the file of the job. -/
theorem Job.Touches.changed {w w' : World} (h : Touches setup start w target job w')
    (hsame : start.SameTree w) (loc : Location)
    (hchanged : w'.files.entry? loc ≠ w.files.entry? loc) :
    ∃ path, target = some path ∧ start.files.reach start.cwd path = .ok loc ∧
      job.result? = some (.ok .reformatted) := by
  cases h with
  | nothing => exact absurd rfl hchanged
  | file _ path found old bytes executable htarget hreach hfile _ _ hwrite hresult =>
      -- The path still leads where it led when the batch began.
      rcases hsame.reach_file hreach hfile with ⟨hreach', data, hfile'⟩
      have helse := (World.sameTree_of_writeFile hreach' hfile' hwrite).2
      obtain rfl : loc = found := by
        by_contra hloc
        exact hchanged (helse loc hloc)
      exact ⟨path, htarget, hreach, hresult⟩

/-- A step of a job changes nothing at another file. -/
theorem Job.Touches.sameAt {w w' : World} {path other : Path}
    (h : Touches setup start w (some path) job w') (hsame : start.SameTree w)
    (hother : ¬start.SameFile path other) : World.SameAt other w w' := by
  intro loc hloc
  by_contra hne
  rcases h.changed hsame loc hne with ⟨written, hwritten, hreach, _⟩
  cases hwritten
  rw [hsame.reach_eq] at hloc
  exact hother ⟨loc, hreach, hloc⟩

/-- A step changes the world only for a job that formats a file in place. -/
theorem Job.Touches.writes {w w' : World} (h : Touches setup start w target job w') :
    w' = w ∨ setup.line.mode = .format ∧ setup.line.output = .inPlace ∧
      ∃ path, target = some path := by
  cases h with
  | nothing => exact Or.inl rfl
  | file _ path _ _ _ _ htarget _ _ hmode houtput _ _ =>
      exact Or.inr ⟨hmode, houtput, path, htarget⟩

end Job

/-! ## All jobs -/

/-- The file at a location is that of a job that ended in a replacement. -/
def Reformats (w : World) (targets : List (Option Path)) (jobs : List Job) (loc : Location) :
    Prop :=
  ∃ (i : Nat) (path : Path) (job : Job), targets[i]? = some (some path) ∧
    w.files.reach w.cwd path = .ok loc ∧ jobs[i]? = some job ∧
    job.result? = some (.ok .reformatted)

/-- A step of one job does not undo the replacements of the others, nor its own. -/
theorem Reformats.set {w : World} {targets : List (Option Path)} {jobs : List Job}
    {loc : Location} {i : Nat} {job next : Job} (h : Reformats w targets jobs loc)
    (hjob : jobs[i]? = some job)
    (hstays : ∀ result, job.result? = some result → next.result? = some result) :
    Reformats w targets (jobs.set i next) loc := by
  rcases h with ⟨k, path, other, htarget, hreach, hother, hresult⟩
  by_cases hik : i = k
  · subst hik
    obtain rfl : job = other := Option.some.inj (hjob.symm.trans hother)
    have hlt := (List.getElem?_eq_some_iff.mp hjob).1
    exact ⟨i, path, next, htarget, hreach, List.getElem?_set_self hlt, hstays _ hresult⟩
  · exact ⟨k, path, other, htarget, hreach, (List.getElem?_set_ne hik).trans hother, hresult⟩

/-- Paths at different positions lead to different files. -/
theorem Batch.not_sameFile_of_pairwise {w : World} {paths : List Path}
    (h : paths.Pairwise fun p q => ¬w.SameFile p q) {i k : Nat} {p q : Path}
    (hi : paths[i]? = some p) (hk : paths[k]? = some q) (hne : k ≠ i) : ¬w.SameFile p q := by
  rcases List.getElem?_eq_some_iff.mp hi with ⟨hilt, rfl⟩
  rcases List.getElem?_eq_some_iff.mp hk with ⟨hklt, rfl⟩
  rcases Nat.lt_or_gt_of_ne hne with hlt | hlt
  · exact fun hsame => List.pairwise_iff_getElem.mp h k i hklt hilt hlt hsame.symm
  · exact List.pairwise_iff_getElem.mp h i k hilt hklt hlt

/-- What holds of a batch for files at any time. The world is the one in which the batch began, but
    for the files whose jobs ended in a replacement, and it is exactly that world where no job
    formats a file in place. -/
structure Batch.Frame (setup : Batch.Setup) (start : World) (targets : List (Option Path))
    (b : Batch) : Prop where
  sameTree : start.SameTree b.shared.world
  jobs : ∀ (i : Nat) (job : Job), b.jobs[i]? = some job →
    ∃ target, targets[i]? = some target ∧ job.IsFor setup start target
  changed : ∀ loc, b.shared.world.files.entry? loc ≠ start.files.entry? loc →
    Reformats start targets b.jobs loc
  writes : b.shared.world = start ∨ setup.line.mode = .format ∧ setup.line.output = .inPlace ∧
    ∃ path, some path ∈ targets

namespace Batch

variable {setup : Batch.Setup} {start : World} {targets : List (Option Path)} {b : Batch}

/-- A step of one job keeps to the frame. -/
theorem frame_advance (h : b.Frame setup start targets) (i : Nat) :
    (b.advance setup i).Frame setup start targets := by
  unfold advance
  cases hget : b.jobs[i]? with
  | none => exact h
  | some job =>
      rcases h.jobs i job hget with ⟨target, htarget, hjob⟩
      have hlt := (List.getElem?_eq_some_iff.mp hget).1
      rcases Job.isFor_and_touches_step hjob h.sameTree with ⟨hnext, htouches⟩
      refine ⟨h.sameTree.trans (htouches.sameTree h.sameTree), fun k other hk => ?_,
        fun loc hchanged => ?_, ?_⟩
      · by_cases hik : i = k
        · subst hik
          rw [List.getElem?_set_self hlt] at hk
          obtain rfl := Option.some.inj hk
          exact ⟨target, htarget, hnext⟩
        · rw [List.getElem?_set_ne hik] at hk
          exact h.jobs k other hk
      · -- A change is either new, and then this job made it, or it was there before.
        by_cases hnew : (job.step setup i b.shared).2.world.files.entry? loc =
            b.shared.world.files.entry? loc
        · exact (h.changed loc (hnew ▸ hchanged)).set hget fun _ => Job.result?_step
        · rcases htouches.changed h.sameTree loc hnew with ⟨path, rfl, hreach, hresult⟩
          exact ⟨i, path, _, htarget, hreach, List.getElem?_set_self hlt, hresult⟩
      · rcases htouches.writes with hsame | ⟨hmode, houtput, path, rfl⟩
        · simp only [hsame]
          exact h.writes
        · exact Or.inr ⟨hmode, houtput, path, List.mem_of_getElem? htarget⟩

/-- So do all steps of a schedule. -/
theorem frame_follow (h : b.Frame setup start targets) (schedule : List Nat) :
    (b.follow setup schedule).Frame setup start targets := by
  induction schedule generalizing b with
  | nil => exact h
  | cons i schedule ih => exact ih (frame_advance h i)

/-- A batch for files begins in its frame. -/
theorem frame_ofPath (setup : Batch.Setup) (paths : List Path) (w : World) (shared : Shared)
    (hw : shared.world = w) :
    Frame setup w (paths.map some) ⟨paths.map Job.ofPath, shared⟩ where
  sameTree := hw ▸ .refl w
  jobs := by
    intro i job hjob
    rw [List.getElem?_map] at hjob ⊢
    rcases Option.map_eq_some_iff.mp hjob with ⟨path, hpath, rfl⟩
    exact ⟨some path, by rw [hpath]; rfl, rfl, .queued path rfl⟩
  changed := fun _ hchanged => absurd (by rw [hw]) hchanged
  writes := Or.inl hw

end Batch

/-! ## The program -/

/-- The files that a command line has formatted, or standard input. -/
def CommandLine.targets (line : CommandLine) (w : World) : List (Option Path) :=
  if line.readsStdin then [none] else (w.collect line).map some

end BufferFormat
