import BufferFormat.Program

/-!
# Where a run over a file is heading

A job takes its steps one at a time, and other jobs may take theirs in between. What a job would
come to if nothing came in between is a function of its stage and of the world: its ending. It is
put together from the later stages to the earlier ones, so that the ending of a stage is what the
step does and then the ending of the next stage.

An ending is worth having because the steps of the job itself do not change it. They only move what
is still to come to what has been done, and `Job.Advances` lists the four ways in which that
happens. What a whole run preserves can therefore be said about the sum of the two, and steps only
have to be looked at here.

Every step also brings a job closer to its record. A schedule in which each job has enough turns
leaves none unfinished, in whatever order the turns come.

## Main definitions

* `Ending`: What a job comes to, what it does on the way, and the world that it leaves.
* `Stage.ending`: The ending of a stage in a world that nothing else changes.
* `Job.finished`: A job once its ending is recorded.
* `Job.Advances`: What a step of a job can be, seen from its ending.
* `Batch.Covers`: A schedule in which every job has enough turns.
* `CommandLine.lastLine`: What is said when all jobs are done.

## Theorems

* `Job.advances_step`: Every step is one of those.
* `Batch.follow_replicate`: What the steps of one job preserve, its turns in a row preserve.
* `Batch.remaining_follow`, `Batch.remaining_follow_of_covers`: After enough turns a job is
  recorded.
* `CommandLine.runFilesUnder_eq`: A run over files is that of their jobs.
-/

namespace BufferFormat

namespace Effects

@[simp] theorem none_andThen (a : Effects) : Effects.andThen {} a = a := by
  simp only [andThen, List.nil_append, String.empty_append]

@[simp] theorem andThen_none (a : Effects) : a.andThen {} = a := by
  simp only [andThen, List.append_nil, String.append_empty]

end Effects

/-- To emit nothing changes nothing. -/
theorem Shared.emit_none (s : Shared) : s.emit {} = s := by
  simp only [emit, Effects.andThen_none]

/-! ## Endings -/

/-- What a job comes to, what it does on the way, and the world that it leaves. What is said when
    the end is recorded does not belong to it, as it depends on the other jobs. -/
structure Ending where
  result : Except Fault Applied
  effects : Effects := {}
  world : World

namespace Ending

/-- An ending with something before it. -/
def after (effects : Effects) (e : Ending) : Ending :=
  { e with effects := effects.andThen e.effects }

theorem after_none (e : Ending) : e.after {} = e := by
  simp only [after, Effects.none_andThen]

section Stages

variable (setup : Batch.Setup) (service : Service) (w : World)

/-- The ending once the formatter has answered. -/
def ofAnswered (host : FileHost) (action : Action) : Ending :=
  let done := host.concludeUnder service.refusals w action setup.line.mode
  ⟨done.result, done.effects, done.world⟩

/-- The ending once the file is read. -/
def ofOpened (config : Config) (host : FileHost) : Ending :=
  let a := attemptWith service.start w config setup.platform (host.view w) setup.line.mode
  (match a.action with
    | .ok action => ofAnswered setup service w host action
    | .error fault => ⟨.error fault, {}, w⟩).after
      { warnings := a.warnings, invocations := a.invocation.toList }

/-- The ending once the configuration is resolved. -/
def ofResolved (path : Path) (config : Config) : Ending :=
  match FileHost.openFile w path setup.line.encoding config.defaultEncoding setup.line.output with
  | .ok host => ofOpened setup service w config { host with silent := setup.line.silent }
  | .error fault => ⟨.error fault, {}, w⟩

/-- The ending from the beginning. -/
def ofQueued (path : Path) : Ending :=
  (match (setup.configFor w path).1 with
    | .ok config => ofResolved setup service w path config
    | .error fault => ⟨.error fault, {}, w⟩).after { warnings := (setup.configFor w path).2 }

end Stages

/-- A run that comes to an action ends as its host concludes it. -/
theorem ofQueued_of_action {setup : Batch.Setup} {service : Service} {w : World} {path : Path}
    {config : Config} {host : FileHost} {action : Action}
    (hconfig : (setup.configFor w path).1 = .ok config)
    (hopen : FileHost.openFile w path setup.line.encoding config.defaultEncoding
      setup.line.output = .ok host)
    (haction : (attemptWith service.start w config setup.platform
      ({ host with silent := setup.line.silent }.view w) setup.line.mode).action = .ok action) :
    let done := { host with silent := setup.line.silent }.concludeUnder service.refusals w action
      setup.line.mode
    (ofQueued setup service w path).result = done.result ∧
      (ofQueued setup service w path).world = done.world := by
  simp only [ofQueued, hconfig, ofResolved, hopen, ofOpened, haction, ofAnswered, after, and_self]

end Ending

/-- The ending of a stage in a world that nothing else changes. -/
def Stage.ending (setup : Batch.Setup) (service : Service) (w : World) : Stage → Ending
  | .queued path => .ofQueued setup service w path
  | .resolved path config => .ofResolved setup service w path config
  | .opened config host => .ofOpened setup service w config host
  | .answered host action => .ofAnswered setup service w host action
  | .ended result => ⟨result, {}, w⟩
  | .recorded result => ⟨result, {}, w⟩

/-- The ending of a job in a world that nothing else changes. -/
def Job.ending (setup : Batch.Setup) (service : Service) (w : World) (job : Job) : Ending :=
  job.stage.ending setup service w

/-- A job once its ending is recorded. -/
def Job.finished (setup : Batch.Setup) (service : Service) (w : World) (job : Job) : Job :=
  ⟨job.name, .recorded (job.ending setup service w).result⟩

/-- What a step of a job can be, seen from its ending. On the way nothing is printed and nothing is
    written. The run then ends as it was bound to end, and the end is recorded. -/
inductive Job.Advances (setup : Batch.Setup) (service : Service) (job : Job) (s : Shared) :
    Job × Shared → Prop where
  | proceed (stage : Stage) (warnings : List Warning) (invocations : List Invocation)
      (hopen : 0 < stage.remaining) (hless : stage.remaining < job.stage.remaining)
      (hending : job.ending setup service s.world =
        (stage.ending setup service s.world).after { warnings, invocations }) :
      Advances setup service job s (⟨job.name, stage⟩, s.emit { warnings, invocations })
  | conclude (hmore : 1 < job.stage.remaining) :
      Advances setup service job s (⟨job.name, .ended (job.ending setup service s.world).result⟩,
        { s with
          world := (job.ending setup service s.world).world
          effects := s.effects.andThen (job.ending setup service s.world).effects })
  | record (result : Except Fault Applied) (hstage : job.stage = .ended result) :
      Advances setup service job s (⟨job.name, .recorded result⟩,
        { s.emit { stderr := s.tally.report setup.line.silent job.name result } with
          tally := s.tally.count result })
  | rest (hdone : job.stage.remaining = 0) : Advances setup service job s (job, s)

/-- On the way, there may be nothing to say either. -/
theorem Job.Advances.proceed_silently {setup : Batch.Setup} {service : Service} {job : Job}
    {s : Shared} (stage : Stage) (hopen : 0 < stage.remaining)
    (hless : stage.remaining < job.stage.remaining)
    (hending : job.ending setup service s.world = stage.ending setup service s.world) :
    Advances setup service job s (⟨job.name, stage⟩, s) := by
  have h := Advances.proceed (s := s) stage [] [] hopen hless
    (hending.trans (Ending.after_none _).symm)
  rwa [Shared.emit_none] at h

/-- Every step of a job is one of those. -/
theorem Job.advances_step (setup : Batch.Setup) (i : Nat) (job : Job) (s : Shared) :
    job.Advances setup (setup.services i s.world) s (job.step setup i s) := by
  rcases job with ⟨name, stage⟩
  cases stage with
  | queued path =>
      rcases hconfig : setup.configFor s.world path with ⟨fault | config, warnings⟩
      · simp only [step, hconfig]
        refine .proceed (.ended (.error fault)) warnings [] Nat.one_pos (show 1 < 5 by decide) ?_
        simp only [ending, Stage.ending, Ending.ofQueued, hconfig]
      · simp only [step, hconfig]
        refine .proceed (.resolved path config) warnings [] (Nat.succ_pos 3)
          (show 4 < 5 by decide) ?_
        simp only [ending, Stage.ending, Ending.ofQueued, hconfig]
  | resolved path config =>
      cases hopen : FileHost.openFile s.world path setup.line.encoding config.defaultEncoding
          setup.line.output with
      | error fault =>
          simp only [step, hopen]
          refine .proceed_silently (.ended (.error fault)) Nat.one_pos (show 1 < 4 by decide) ?_
          simp only [ending, Stage.ending, Ending.ofResolved, hopen]
      | ok host =>
          simp only [step, hopen]
          refine .proceed_silently (.opened config _) (Nat.succ_pos 2) (show 3 < 4 by decide) ?_
          simp only [ending, Stage.ending, Ending.ofResolved, hopen]
  | opened config host =>
      cases haction : (attemptWith (setup.services i s.world).start s.world config setup.platform
          (host.view s.world) setup.line.mode).action with
      | error fault =>
          simp only [step, haction]
          refine .proceed (.ended (.error fault)) _ _ Nat.one_pos (show 1 < 3 by decide) ?_
          simp only [ending, Stage.ending, Ending.ofOpened, haction]
      | ok action =>
          simp only [step, haction]
          refine .proceed (.answered host action) _ _ (Nat.succ_pos 1) (show 2 < 3 by decide) ?_
          simp only [ending, Stage.ending, Ending.ofOpened, haction]
  | answered host action => exact .conclude (show 1 < 2 by decide)
  | ended result => exact .record result rfl
  | recorded result => exact .rest rfl

/-! ## Turns -/

theorem Stage.remaining_le (stage : Stage) : stage.remaining ≤ Batch.mostSteps := by
  cases stage <;> simp only [remaining, Batch.mostSteps] <;> decide

/-- A job without further steps is recorded. -/
theorem Stage.eq_recorded {stage : Stage} (h : stage.remaining = 0) :
    ∃ result, stage = .recorded result := by
  cases stage with
  | recorded result => exact ⟨result, rfl⟩
  | queued path => cases h
  | resolved path config => cases h
  | opened config host => cases h
  | answered host action => cases h
  | ended result => cases h

/-- A step brings a job closer to its record. -/
theorem Job.remaining_step (setup : Batch.Setup) (i : Nat) (job : Job) (s : Shared) :
    (job.step setup i s).1.stage.remaining ≤ job.stage.remaining - 1 := by
  have h := job.advances_step setup i s
  generalize job.step setup i s = next at h ⊢
  cases h with
  | proceed stage _ _ _ hless _ => exact Nat.le_sub_one_of_lt hless
  | conclude hmore => exact Nat.le_sub_one_of_lt hmore
  | record result hstage => exact Nat.zero_le _
  | rest hdone => exact hdone ▸ Nat.le_refl 0

namespace Batch

/-- A turn of one job is a step of that job, and the other jobs stay. -/
theorem advance_of_get (setup : Setup) {b : Batch} {i : Nat} {job : Job}
    (hjob : b.jobs[i]? = some job) :
    b.advance setup i =
      ⟨b.jobs.set i (job.step setup i b.shared).1, (job.step setup i b.shared).2⟩ := by
  simp only [advance, hjob]

/-- A turn brings the job whose turn it is closer to its record, and leaves the others. -/
theorem remaining_advance {setup : Setup} {b : Batch} {k i : Nat} {next : Job}
    (hnext : (b.advance setup k).jobs[i]? = some next) :
    ∃ job, b.jobs[i]? = some job ∧
      next.stage.remaining ≤ job.stage.remaining - [k].count i := by
  cases hturn : b.jobs[k]? with
  | none =>
      simp only [advance, hturn] at hnext
      refine ⟨next, hnext, ?_⟩
      have hne : k ≠ i := by
        rintro rfl
        rw [hturn] at hnext
        cases hnext
      rw [List.count_singleton, beq_eq_false_iff_ne.mpr hne]
      exact Nat.le_refl _
  | some job =>
      rw [advance_of_get setup hturn] at hnext
      by_cases hki : k = i
      · subst hki
        rw [List.getElem?_set_self (List.getElem?_eq_some_iff.mp hturn).1] at hnext
        obtain rfl := Option.some.inj hnext
        rw [List.count_singleton_self]
        exact ⟨job, hturn, job.remaining_step setup k b.shared⟩
      · rw [List.getElem?_set_ne hki] at hnext
        rw [List.count_singleton, beq_eq_false_iff_ne.mpr hki]
        exact ⟨next, hnext, Nat.le_refl _⟩

/-- Every turn of a job brings it closer to its record. -/
theorem remaining_follow {setup : Setup} {i : Nat} {job : Job} (schedule : List Nat) (b : Batch)
    (hjob : (b.follow setup schedule).jobs[i]? = some job) :
    ∃ first, b.jobs[i]? = some first ∧
      job.stage.remaining ≤ first.stage.remaining - schedule.count i := by
  induction schedule generalizing b with
  | nil => exact ⟨job, hjob, Nat.le_refl _⟩
  | cons k schedule ih =>
      rcases ih (b.advance setup k) hjob with ⟨next, hnext, hlater⟩
      rcases remaining_advance hnext with ⟨first, hfirst, hturn⟩
      refine ⟨first, hfirst, ?_⟩
      have hcount : (k :: schedule).count i = [k].count i + schedule.count i := by
        rw [← List.count_append, List.singleton_append]
      omega

/-- A schedule in which each of a number of jobs has enough turns to be finished. -/
def Covers (schedule : List Nat) (n : Nat) : Prop :=
  ∀ i < n, mostSteps ≤ schedule.count i

/-- A schedule with enough turns for every job leaves none unfinished. -/
theorem remaining_follow_of_covers {setup : Setup} {schedule : List Nat} {b : Batch}
    (hcovers : Covers schedule b.jobs.length) :
    ∀ job ∈ (b.follow setup schedule).jobs, job.stage.remaining = 0 := by
  intro job hjob
  rcases List.getElem?_of_mem hjob with ⟨i, hi⟩
  rcases remaining_follow schedule b hi with ⟨first, hfirst, hless⟩
  have hturns := hcovers i (List.getElem?_eq_some_iff.mp hfirst).1
  have := Stage.remaining_le first.stage
  omega

theorem oneByOne_succ (n : Nat) :
    oneByOne (n + 1) = oneByOne n ++ List.replicate mostSteps n := by
  rw [oneByOne, List.range_succ, List.flatMap_append, List.flatMap_singleton]
  rfl

/-- The order that finishes each job before the next gives every job enough turns. -/
theorem covers_oneByOne (n : Nat) : Covers (oneByOne n) n := by
  induction n with
  | zero => exact fun i hi => absurd hi (Nat.not_lt_zero i)
  | succ n ih =>
      intro i hi
      rw [oneByOne_succ, List.count_append]
      by_cases hin : i < n
      · exact Nat.le_add_right_of_le (ih i hin)
      · obtain rfl : i = n := by omega
        rw [List.count_replicate_self]
        exact Nat.le_add_left _ _

/-- Without jobs nothing happens. -/
theorem follow_nil (setup : Setup) (shared : Shared) (schedule : List Nat) :
    follow setup ⟨[], shared⟩ schedule = ⟨[], shared⟩ := by
  induction schedule with
  | nil => rfl
  | cons i schedule ih => exact ih

end Batch

/-! ## Runs over files -/

namespace CommandLine

/-- Where files are named, the program does more than explain itself. -/
theorem onlyExplains_of_files {line : CommandLine} (hfiles : line.readsStdin = false)
    (input : StandardInput) : line.onlyExplains input = false := by
  rw [readsStdin, Bool.or_eq_false_iff] at hfiles
  rw [onlyExplains, hfiles.1, Bool.false_and]

/-- One file after the other is how a sequential run goes, and how any run may go. -/
theorem orderUnder_oneByOne (line : CommandLine) :
    line.orderUnder Batch.oneByOne = Batch.oneByOne := by
  rw [orderUnder, ite_self]

/-- An order that gives every job enough turns does so where the program follows it, and where it
    does not. -/
theorem covers_orderUnder {line : CommandLine} {order : Batch.Order} {n : Nat}
    (hcovers : Batch.Covers (order n) n) : Batch.Covers (line.orderUnder order n) n := by
  unfold orderUnder
  split
  · exact Batch.covers_oneByOne n
  · exact hcovers

/-- What is said when all jobs are done. -/
def lastLine (line : CommandLine) (w : World) (tally : Tally) : String :=
  if (w.collect line).isEmpty then line.nothingFound else line.closing tally

/-- A run over files is that of their jobs, with what is said before and after it. Where no files
    were found there are no jobs. -/
theorem runFilesUnder_eq (order : Batch.Order) (setup : Batch.Setup) (shared : Shared)
    (htally : shared.tally = {}) :
    let paths := shared.world.collect setup.line
    let b := Batch.follow setup
      ⟨paths.map Job.ofPath, shared.emit { stderr := setup.line.skipped shared.world }⟩
      (setup.line.orderUnder order paths.length)
    runFilesUnder order setup shared =
      ⟨b.shared.world, b.shared.effects.andThen
        { stderr := setup.line.lastLine shared.world b.shared.tally },
        b.shared.tally.exitStatus, b.jobs, b.shared.tally⟩ := by
  intro paths b
  cases hpaths : paths.isEmpty with
  | true =>
      obtain hnil : paths = [] := List.isEmpty_iff.mp hpaths
      have hb : b = ⟨[], shared.emit { stderr := setup.line.skipped shared.world }⟩ := by
        simp only [b, hnil, List.map_nil, Batch.follow_nil]
      simp only [runFilesUnder, lastLine, Shared.emit, Completion.printing, hb]
      simp only [paths] at hpaths
      simp only [hpaths, if_true, htally]
      rfl
  | false =>
      simp only [paths] at hpaths
      simp only [runFilesUnder, lastLine, Shared.emit, batchUnder, List.length_map, hpaths,
        Bool.false_eq_true, if_false]
      rfl

end CommandLine

end BufferFormat
