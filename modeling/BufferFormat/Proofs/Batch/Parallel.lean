import BufferFormat.Proofs.Batch.Interleaving

/-!
# Files are formatted side by side

A batch that has settled shows nothing of its order but the order of what was said. For a whole run
of the program this is read off twice: two runs over the same files come to the same, whatever
schedules they followed, and what they come to is complete. Every file is counted, every message of
a run over a file is made once, and those runs that could not find the formatter share a message.

Messages are compared line by line, as several of them may be about one file, and a line is what a
reader sees. Everything that a run says is made up of whole lines, so the messages of another order
are the same lines in another order.

How many files may be formatted at once is a setting of the command line, and no step looks at it.
It only bears on the order, and an order is what a run is told in the first place. Every order will
do in which all jobs are finished in the end, and they are if each has as many turns as the longest
run needs.

## Main definitions

* `Batch.Setup.remarks`: What a run over a file says for itself.
* `Completion.Finished`: A run in which no job is left unfinished.
* `Completion.SameAs`: Two runs that come to the same and say the same.
* `Completion.Complete`: A run over files in which no file and no message is missing.
* `Batch.completion`: What a run leaves behind once its batch has settled.
* `CommandLine.opening`: What was done before the first job.
* `World.sideBySide`: A world with two files and a formatter for one of them.

## Theorems

* `Batch.Setup.independent`: With the formatter that the world holds, runs over different files do
  not depend on each other.
* `Batch.Settled.sameAs`: Runs whose batches have settled come to the same.
* `Batch.Settled.complete`: A run whose batch has settled is complete.
* `CommandLine.runUnder_eq`: A run over files is that of their jobs.
* `CommandLine.runUnder_jobs`: How many jobs may run at once makes no difference.
* `CommandLine.finished_runUnder`, `CommandLine.settled_runUnder`: With enough turns no job of a run
  is left unfinished, and then its batch has settled.
* `runProgramUnder_interleaving`: A run of the program in any order is like one file after the
  other.
-/

namespace BufferFormat

/-! ## Whole lines -/

/-- A message is made up of whole lines. -/
theorem isLines_of_mem_spoken {text message : String} (h : text = "" ∨ IsLines text)
    (hmem : message ∈ spoken text) : IsLines message := by
  rcases h with rfl | hlines
  · cases hmem
  · rw [spoken_of_isLines hlines, List.mem_singleton] at hmem
    exact hmem ▸ hlines

namespace FileHost

theorem stderr_notify (h : FileHost) (message : String) :
    (h.notify message).stderr = "" ∨ IsLines (h.notify message).stderr := by
  unfold notify
  split
  · exact Or.inl rfl
  · exact Or.inr (isLines_append _)

/-- A replacement is silent. -/
theorem stderr_replaceTextUnder (r : Refusals) (h : FileHost) (w : World) (text : String) :
    (h.replaceTextUnder r w text).effects.stderr = "" := by
  unfold replaceTextUnder
  cases encodeText text h.encoding with
  | error fault => rfl
  | ok bytes =>
      simp only
      split
      · split <;> rfl
      · split
        · rfl
        · rename_i hprint
          rw [Refusals.print_eq_ok hprint]

theorem stderr_performUnder (r : Refusals) (h : FileHost) (w : World) (action : Action) :
    (h.performUnder r w action).effects.stderr = "" ∨
      IsLines (h.performUnder r w action).effects.stderr := by
  cases action with
  | reject status message => exact h.stderr_notify message
  | keep => exact h.stderr_notify alreadyFormatted
  | showDiff label text =>
      refine Or.inl ?_
      simp only [performUnder]
      split
      · rfl
      · rename_i hpanel
        rw [Refusals.print_eq_ok hpanel]
  | replace text => simp only [performUnder_replace, stderr_replaceTextUnder, true_or]

/-- What is printed at the end of a run does not go to standard error. -/
theorem stderr_finishUnder {r : Refusals} {h : FileHost} {applied : Applied} {effects : Effects}
    (hfinish : h.finishUnder r applied = .ok effects) : effects.stderr = "" := by
  unfold finishUnder at hfinish
  split at hfinish
  · rcases (bind_eq_ok_iff _ _ _).mp hfinish with ⟨bytes, _, hprint⟩
    rw [Refusals.print_eq_ok hprint]
  · rcases (bind_eq_ok_iff _ _ _).mp hfinish with ⟨bytes, _, hprint⟩
    rw [Refusals.print_eq_ok hprint]
  · cases hfinish
    rfl

/-- What the end of a run says is a line, if anything. -/
theorem stderr_concludeUnder (r : Refusals) (h : FileHost) (w : World) (action : Action)
    (mode : Mode) :
    (h.concludeUnder r w action mode).effects.stderr = "" ∨
      IsLines (h.concludeUnder r w action mode).effects.stderr := by
  have hact := h.stderr_performUnder r w action
  unfold concludeUnder
  simp only
  split
  · split
    · rename_i hfinish
      simp only [Effects.andThen, stderr_finishUnder hfinish, String.append_empty]
      exact hact
    · exact hact
  · exact hact

end FileHost

/-- What a run says on its way to the end is a line, if anything. -/
theorem Ending.stderr_ofQueued (setup : Batch.Setup) (service : Service) (w : World)
    (path : Path) :
    (ofQueued setup service w path).effects.stderr = "" ∨
      IsLines (ofQueued setup service w path).effects.stderr := by
  simp only [ofQueued, after, Effects.andThen, String.empty_append]
  split
  · simp only [ofResolved]
    split
    · simp only [ofOpened, after, Effects.andThen, String.empty_append]
      split
      · exact FileHost.stderr_concludeUnder _ _ _ _ _
      · exact Or.inl rfl
    · exact Or.inl rfl
  · exact Or.inl rfl

theorem Tally.lines_ownReport (silent : Bool) (name : String) (result : Except Fault Applied) :
    ownReport silent name result = "" ∨ IsLines (ownReport silent name result) := by
  rcases result with fault | applied
  · simp only [ownReport, report, if_true]
    split
    · exact Or.inl rfl
    · split
      · exact Or.inl rfl
      · exact Or.inr (isLines_append _)
  · exact Or.inl rfl

/-- What a job says for itself is made up of whole lines. -/
theorem Job.isLines_of_mem_owed {setup : Batch.Setup} {service : Service} {w : World}
    {path : Path} {message : String} (h : message ∈ (ofPath path).owed setup service w) :
    IsLines message := by
  unfold owed at h
  rcases List.mem_append.mp h with hstderr | hreport
  · exact isLines_of_mem_spoken (Ending.stderr_ofQueued setup service w path) hstderr
  · rcases List.mem_flatMap.mp hreport with ⟨result, _, hmem⟩
    exact isLines_of_mem_spoken (Tally.lines_ownReport _ _ result) hmem

/-! ## A run of the program -/

/-- The fault of a job that could not find the formatter. -/
def Job.unavailable? (job : Job) : Option Fault :=
  match job.result? with
  | some (.error fault) => if fault.isToolUnavailable then some fault else none
  | _ => none

theorem Job.unavailable?_eq_some_iff (job : Job) (fault : Fault) :
    job.unavailable? = some fault ↔
      job.result? = some (.error fault) ∧ fault.isToolUnavailable = true := by
  unfold unavailable?
  rcases job.result? with _ | found | applied
  · exact ⟨nofun, nofun⟩
  · simp only [Option.ite_none_right_eq_some, Option.some.injEq, Except.error.injEq]
    constructor
    · rintro ⟨htool, rfl⟩
      exact ⟨rfl, htool⟩
    · rintro ⟨rfl, htool⟩
      exact ⟨htool, rfl⟩
  · exact ⟨nofun, nofun⟩

/-- A job that is finished has such a fault if it came to one. -/
theorem Job.isSome_unavailable?_finished (setup : Batch.Setup) (service : Service)
    (w : World) (job : Job) :
    (job.finished setup service w).unavailable?.isSome =
      Tally.isUnavailable (job.ending setup service w).result := by
  simp only [unavailable?, finished, result?]
  cases (job.ending setup service w).result with
  | ok applied => rfl
  | error fault =>
      cases htool : fault.isToolUnavailable with
      | true => simp only [htool, if_true, Option.isSome_some, Tally.isUnavailable]
      | false => simp only [htool, Bool.false_eq_true, if_false, Option.isSome_none,
          Tally.isUnavailable]

/-- What a run over a file says for itself: the message of the formatter, or the report of a fault
    that is not reported for the whole batch. -/
def Batch.Setup.remarks (setup : Batch.Setup) (w : World) (path : Path) : List String :=
  (Job.ofPath path).owed setup (w.service setup.platform) w

/-- A run in which no job is left unfinished. -/
def Completion.Finished (done : Completion) : Prop :=
  ∀ job ∈ done.jobs, ∃ result, job.stage = .recorded result

/-- Two runs that come to the same and say the same. Only the order is left open in which they say
    so. -/
structure Completion.SameAs (done other : Completion) : Prop where
  files : ∀ loc, done.world.files.entry? loc = other.world.files.entry? loc
  jobs : done.jobs = other.jobs
  tally : done.tally = other.tally
  status : done.status = other.status
  lines : (Text.splitAt '\n' done.effects.stderr.toList).Perm
    (Text.splitAt '\n' other.effects.stderr.toList)
  warnings : done.effects.warnings.Perm other.effects.warnings

/-- A run over files that is complete. Every file is counted, and every message is made once: those
    that a run over a file makes for itself, and one for all runs that could not find the
    formatter. -/
structure Completion.Complete (setup : Batch.Setup) (w : World) (done : Completion) : Prop where
  names : done.jobs.map Job.name = (w.collect setup.line).map Path.text
  counted : done.tally.reformatted + done.tally.unchanged + done.tally.failed =
    (w.collect setup.line).length
  said : ∃ said, done.effects.stderr =
      setup.line.skipped w ++ String.join said ++ setup.line.lastLine w done.tally ∧
    said.Perm (((done.jobs.findSome? Job.unavailable?).map Fault.alarm).toList ++
      (w.collect setup.line).flatMap (setup.remarks w))
  status : done.status =
    if ∃ job ∈ done.jobs, job.result?.any Tally.isUnavailable = true then 2
    else if ∃ job ∈ done.jobs, job.result?.any Tally.isFailed = true then 1 else 0

/-- With the formatter that the world holds, runs over different files do not depend on each
    other. -/
theorem Batch.Setup.independent {setup : Batch.Setup} {w : World} {paths : List Path}
    (hheld : setup.services = Batch.held setup.platform)
    (hbase : (setup.line.resolve w w.cwdPath).1 = .ok setup.base)
    (hapart : Batch.Apart setup.line w paths) :
    Batch.Independent setup (w.service setup.platform) w paths (setup.unavailable w).alarm where
  service_eq := fun i v hsame => by
    rw [hheld]
    exact World.service_eq hsame setup.platform
  apart := hapart
  alarm_eq := fun path _ fault hfault htool =>
    congrArg Fault.alarm (Ending.unavailable_ofQueued hbase hfault htool)

section Settled

variable {setup : Batch.Setup} {w : World} {service : Service} {alarm : String}
  {first : Effects} {b b' : Batch}

/-- What a run over files leaves behind once its batch has settled. -/
def Batch.completion (line : CommandLine) (w : World) (b : Batch) : Completion :=
  ⟨b.shared.world, b.shared.effects.andThen { stderr := line.lastLine w b.shared.tally },
    b.shared.tally.exitStatus, b.jobs, b.shared.tally⟩

/-- Runs whose batches have settled come to the same, if what was said before them were whole
    lines. -/
theorem Batch.Settled.sameAs {paths : List Path} {messages : List String}
    (h : b.Settled setup service w paths alarm first)
    (h' : b'.Settled setup service w paths alarm first) (halarm : IsLines alarm)
    (hfirst : first.stderr = String.join messages)
    (hmessages : ∀ message ∈ messages, IsLines message) :
    (b.completion setup.line w).SameAs (b'.completion setup.line w) := by
  have htally : b.shared.tally = b'.shared.tally := h.tally.trans h'.tally.symm
  refine ⟨h.entry?_eq h', h.jobs.trans h'.jobs.symm, htally, congrArg Tally.exitStatus htally,
    ?_, ?_⟩
  · rcases h.said with ⟨said, hstderr, hsaid⟩
    rcases h'.said with ⟨said', hstderr', hsaid'⟩
    rw [← htally] at hsaid'
    -- What was said first, the alarm and what the jobs said for themselves are all whole lines.
    have hlines : ∀ message ∈ messages ++ said, IsLines message := by
      intro message hmem
      rcases List.mem_append.mp hmem with hbefore | hduring
      · exact hmessages message hbefore
      · rcases List.mem_append.mp (hsaid.mem_iff.mp hduring) with hraised | howed
        · unfold Tally.raised at hraised
          split at hraised
          · exact List.mem_singleton.mp hraised ▸ halarm
          · cases hraised
        · rcases List.mem_flatMap.mp howed with ⟨path, _, hmem⟩
          exact Job.isLines_of_mem_owed hmem
    simp only [completion, Effects.andThen, hstderr, hstderr', hfirst, ← String.join_append,
      ← htally]
    exact perm_lines ((hsaid.trans hsaid'.symm).append_left messages) hlines _
  · simp only [completion, Effects.andThen, List.append_nil]
    exact h.warnings.trans h'.warnings.symm

/-- The first job that could not find the formatter raised the alarm for all. -/
theorem Batch.Settled.raised_eq {paths : List Path}
    (h : b.Settled setup service w paths alarm first)
    (halarm : ∀ path ∈ paths, ∀ fault,
      (Ending.ofQueued setup service w path).result = .error fault →
        fault.isToolUnavailable = true → fault.alarm = alarm) :
    b.shared.tally.raised alarm =
      ((b.jobs.findSome? Job.unavailable?).map Fault.alarm).toList := by
  have htool : b.shared.tally.toolUnavailable = (b.jobs.findSome? Job.unavailable?).isSome := by
    rw [h.tally, h.jobs, Tally.ofResults, List.isSome_findSome?, List.any_map, List.any_map]
    exact List.any_congr rfl fun path => ((Job.ofPath path).isSome_unavailable?_finished _ _ _).symm
  rw [Tally.raised, htool]
  cases hfirst : b.jobs.findSome? Job.unavailable? with
  | none => rfl
  | some fault =>
      -- Whichever job was the first, its fault says what those of the others would have said.
      rcases List.exists_of_findSome?_eq_some hfirst with ⟨job, hmem, hjob⟩
      rw [h.jobs] at hmem
      rcases List.mem_map.mp hmem with ⟨path, hpath, rfl⟩
      rcases (Job.unavailable?_eq_some_iff _ _).mp hjob with ⟨hresult, hfault⟩
      rw [← halarm path hpath fault (Option.some.inj hresult) hfault]
      rfl

/-- A run whose batch has settled is complete. -/
theorem Batch.Settled.complete (hheld : service = w.service setup.platform)
    (h : b.Settled setup service w (w.collect setup.line) alarm first)
    (halarm : ∀ path ∈ w.collect setup.line, ∀ fault,
      (Ending.ofQueued setup service w path).result = .error fault →
        fault.isToolUnavailable = true → fault.alarm = alarm)
    (hfirst : first.stderr = setup.line.skipped w) :
    (b.completion setup.line w).Complete setup w where
  names := by
    simp only [completion, h.jobs, List.map_map]
    rfl
  counted := by
    simp only [completion, h.tally]
    rw [Tally.counts_ofResults, List.length_map]
  said := by
    rcases h.said with ⟨said, hstderr, hsaid⟩
    refine ⟨said, ?_, ?_⟩
    · simp only [completion, Effects.andThen, hstderr, hfirst]
    · rw [h.raised_eq halarm] at hsaid
      simp only [completion]
      subst hheld
      exact hsaid
  status := by
    simp only [completion, h.tally, Tally.exitStatus_ofResults, h.jobs, List.mem_map,
      exists_exists_and_eq_and]
    rfl

end Settled

/-! ## In any order -/

section Jobs

variable (setup : Batch.Setup) (jobs : Option UInt64)

/-- How many jobs may run at once makes no difference to a job. -/
theorem Job.step_jobs (i : Nat) (job : Job) (s : Shared) :
    job.step { setup with line := { setup.line with jobs } } i s = job.step setup i s := by
  have hconfig : ∀ path, Batch.Setup.configFor { setup with line := { setup.line with jobs } }
      s.world path = setup.configFor s.world path := fun _ => rfl
  have hmode : ({ setup.line with jobs } : CommandLine).mode = setup.line.mode := rfl
  have houtput : ({ setup.line with jobs } : CommandLine).output = setup.line.output := rfl
  rcases job with ⟨name, stage⟩
  cases stage <;> simp only [step, hconfig, hmode, houtput]

theorem Batch.follow_jobs (b : Batch) (schedule : List Nat) :
    b.follow { setup with line := { setup.line with jobs } } schedule =
      b.follow setup schedule := by
  have hadvance : advance { setup with line := { setup.line with jobs } } = advance setup := by
    funext b i
    simp only [advance, Job.step_jobs]
  simp only [follow, hadvance]

end Jobs

namespace CommandLine

variable (line : CommandLine) (order : Batch.Order) (platform : Platform) {w : World}
  (input : StandardInput) {base : Config}

/-- What was done before the first job: the configuration for the working directory is resolved, and
    arguments that name nothing are skipped. -/
def opening (line : CommandLine) (w : World) : Effects :=
  { warnings := (line.resolve w w.cwdPath).2, stderr := line.skipped w }

/-- A run over files is that of their jobs. -/
theorem runUnder_eq (hstdin : line.readsStdin = false)
    (hbase : (line.resolve w w.cwdPath).1 = .ok base) :
    line.runUnder order platform w input =
      (Batch.follow { line, platform, base }
        ⟨(w.collect line).map Job.ofPath, { world := w, effects := line.opening w }⟩
        (line.orderUnder order (w.collect line).length)).completion line w := by
  have hresolve : line.resolve w w.cwdPath = (.ok base, (line.resolve w w.cwdPath).2) :=
    Prod.ext hbase rfl
  rw [runUnder, runWith, onlyExplains_of_files hstdin, if_neg Bool.false_ne_true, hresolve]
  simp only [hstdin, Bool.false_eq_true, if_false]
  rw [runFilesUnder_eq _ _ _ rfl]
  simp only [Shared.emit, Effects.andThen, String.empty_append, List.append_nil, Batch.completion,
    opening]

/-- How many jobs may run at once makes no difference to a run over files, but for the order. -/
theorem runUnder_jobs (hstdin : line.readsStdin = false)
    (hbase : (line.resolve w w.cwdPath).1 = .ok base) (jobs : Option UInt64) :
    ({ line with jobs } : CommandLine).runUnder order platform w input =
      (Batch.follow { line, platform, base }
        ⟨(w.collect line).map Job.ofPath, { world := w, effects := line.opening w }⟩
        (({ line with jobs } : CommandLine).orderUnder order
          (w.collect line).length)).completion line w := by
  rw [← Batch.follow_jobs { line, platform, base } jobs]
  exact runUnder_eq { line with jobs } order platform input hstdin hbase

/-- A run over files in an order with enough turns leaves no job unfinished, however many may run at
    once. -/
theorem finished_runUnder (hstdin : line.readsStdin = false)
    (hbase : (line.resolve w w.cwdPath).1 = .ok base) (jobs : Option UInt64)
    (hcovers : Batch.Covers (order (w.collect line).length) (w.collect line).length) :
    (({ line with jobs } : CommandLine).runUnder order platform w input).Finished := by
  rw [line.runUnder_jobs order platform input hstdin hbase jobs]
  have hcovered : Batch.Covers (({ line with jobs } : CommandLine).orderUnder order _) _ :=
    covers_orderUnder hcovers
  exact fun job hjob => Stage.eq_recorded (Batch.remaining_follow_of_covers
    (by rw [List.length_map]; exact hcovered) job hjob)

/-- Once no job is left unfinished, the batch of the run has settled. -/
theorem settled_runUnder (hstdin : line.readsStdin = false)
    (hbase : (line.resolve w w.cwdPath).1 = .ok base)
    (hapart : Batch.Apart line w (w.collect line)) (jobs : Option UInt64)
    (hdone : (({ line with jobs } : CommandLine).runUnder order platform w input).Finished) :
    let setup : Batch.Setup := { line, platform, base }
    ∃ b : Batch,
      ({ line with jobs } : CommandLine).runUnder order platform w input = b.completion line w ∧
        b.Settled setup (w.service platform) w (w.collect line) (setup.unavailable w).alarm
          (line.opening w) := by
  intro setup
  have hind : Batch.Independent setup _ w (w.collect line) _ :=
    Batch.Setup.independent rfl hbase hapart
  rw [line.runUnder_jobs order platform input hstdin hbase jobs] at hdone ⊢
  let shared : Shared := { world := w, effects := line.opening w }
  refine ⟨_, rfl, Batch.settled_follow hind shared rfl rfl fun job hjob => ?_⟩
  rcases hdone job hjob with ⟨result, hstage⟩
  rw [hstage]
  rfl

/-- What is said about arguments that name nothing is a line for each. -/
theorem skipped_eq_join (line : CommandLine) (w : World) :
    ∃ messages, line.skipped w = String.join messages ∧
      ∀ message ∈ messages, IsLines message := by
  unfold skipped
  split
  · exact ⟨[], rfl, nofun⟩
  · refine ⟨_, rfl, fun message hmem => ?_⟩
    rcases List.mem_map.mp hmem with ⟨input, _, rfl⟩
    have hline := isLines_append ("Skipping " ++ input.text ++ ": no such file or directory")
    rw [String.append_assoc] at hline
    exact hline

end CommandLine

/-- What a run says that could not find the formatter is a line. -/
theorem Fault.isLines_alarm (fault : Fault) : IsLines fault.alarm :=
  isLines_append _

/-- A run of the program is that of the command line that its arguments make. -/
theorem runProgramUnder_of_parse {argv : List String} {line : CommandLine} (order : Batch.Order)
    (platform : Platform) (w : World) (input : StandardInput)
    (hparse : CommandLine.parse argv = .ok line) :
    runProgramUnder order platform w argv input = line.runUnder order platform w input := by
  simp only [runProgramUnder, runProgramWith, hparse, CommandLine.runUnder]

/-- Files may be formatted side by side. Where the files of a batch are different ones and none of
    them is a configuration file for another, a run in which all jobs are finished comes to the same
    in whatever order they took their steps, and says the same: as much as if one file was finished
    before the next. With enough turns for each, all jobs are finished. -/
theorem runProgramUnder_interleaving (order : Batch.Order) (platform : Platform) (w : World)
    (argv : List String) (input : StandardInput) (line : CommandLine) (base : Config)
    (hparse : CommandLine.parse argv = .ok line) (hfiles : line.readsStdin = false)
    (hbase : (line.resolve w w.cwdPath).1 = .ok base)
    (hapart : Batch.Apart line w (w.collect line)) :
    let done := runProgramUnder order platform w argv input
    let alone :=
      ({ line with jobs := some 1 } : CommandLine).runUnder Batch.oneByOne platform w input
    (Batch.Covers (order (w.collect line).length) (w.collect line).length → done.Finished) ∧
      (done.Finished → done.SameAs alone ∧ done.Complete { line, platform, base } w) := by
  intro done alone
  have hrun : done = ({ line with jobs := line.jobs } : CommandLine).runUnder order platform w
      input := runProgramUnder_of_parse order platform w input hparse
  refine ⟨fun hcovers => ?_, fun hdone => ?_⟩
  · rw [hrun]
    exact line.finished_runUnder order platform input hfiles hbase line.jobs hcovers
  · -- Both runs are those of the same jobs, which settle in either order.
    rw [hrun] at hdone
    have hdone' := line.finished_runUnder Batch.oneByOne platform input hfiles hbase (some 1)
      (Batch.covers_oneByOne _)
    rcases line.settled_runUnder order platform input hfiles hbase hapart line.jobs hdone with
      ⟨b, hb, hsettled⟩
    rcases line.settled_runUnder Batch.oneByOne platform input hfiles hbase hapart (some 1) hdone'
      with ⟨b', hb', hsettled'⟩
    have hind : Batch.Independent { line, platform, base } _ w (w.collect line) _ :=
      Batch.Setup.independent rfl hbase hapart
    rcases line.skipped_eq_join w with ⟨messages, hfirst, hmessages⟩
    rw [hrun, hb, show alone = _ from hb']
    exact ⟨hsettled.sameAs hsettled' (Fault.isLines_alarm _) hfirst hmessages,
      hsettled.complete rfl hind.alarm_eq rfl⟩

/-- A formatter that has one thing to correct. -/
def Formatter.fixing (i : Invocation) : Outcome :=
  if i.input = [0x78] then ⟨0, [0x7A], Utf8.encode "reformatted".toList⟩
  else ⟨0, i.input, Utf8.encode "left unchanged".toList⟩

/-- A world in which two files lie side by side, with a formatter for one of them. -/
def World.sideBySide : World where
  files := ⟨[(["a.py"], .file [0x78] false), (["b.py"], .file [0x79] false),
    (["fmt"], .file [] true)]⟩
  cwd := []
  env := .empty
  programs := fun _ => some Formatter.fixing

/-- The command line that names both. -/
def CommandLine.bothFiles : CommandLine :=
  { inputs := [⟨"/a.py"⟩, ⟨"/b.py"⟩], command := some "/fmt" }

/-- A host for one of them, as it is opened. -/
def FileHost.beside (path text : String) : FileHost :=
  ⟨some ⟨path⟩, text, "utf-8", .inPlace, false, false⟩

/-- The order in which all jobs take a step before the first one takes another. -/
def Batch.inTurn : Batch.Order :=
  fun n => (List.replicate mostSteps (List.range n)).flatten

namespace World

/-- Where the names of the two files lead. -/
theorem reach_sideBySide :
    sideBySide.files.reach sideBySide.cwd ⟨"/a.py"⟩ = .ok ["a.py"] ∧
      sideBySide.files.reach sideBySide.cwd ⟨"/b.py"⟩ = .ok ["b.py"] :=
  ⟨FileSystem.reach_root _ _ rfl rfl (by decide) (by decide) (by decide) rfl,
    FileSystem.reach_root _ _ rfl rfl (by decide) (by decide) (by decide) rfl⟩

/-- The two files are collected. -/
theorem collect_sideBySide : sideBySide.collect .bothFiles = [⟨"/a.py"⟩, ⟨"/b.py"⟩] := by
  simp only [collect, CommandLine.bothFiles, List.flatMap_cons, List.flatMap_nil, filesOf?,
    FileSystem.resolve, reach_sideBySide.1, reach_sideBySide.2]
  rfl

/-- There are no configuration files for them. -/
theorem discover_sideBySide {p : Path} (hp : p ∈ [⟨"/"⟩, ⟨"/a.py"⟩, ⟨"/b.py"⟩]) :
    ConfigFile.discover sideBySide p = [] := by
  have hreach : sideBySide.files.reach sideBySide.cwd ⟨"/blackpipe.toml"⟩ =
      .ok ["blackpipe.toml"] :=
    FileSystem.reach_root _ _ rfl rfl (by decide) (by decide) (by decide) rfl
  have hnone : sideBySide.isFile ⟨"/blackpipe.toml"⟩ = false := by
    rw [isFile, FileSystem.isFile, FileSystem.resolve, hreach]
    rfl
  refine ConfigFile.discover_atRoot rfl ?_ hnone
  simp only [List.mem_cons, List.not_mem_nil, or_false] at hp
  rcases hp with rfl | rfl | rfl
  · exact ConfigFile.startDir?_root _
  · have ha : sideBySide.isFile ⟨"/a.py"⟩ = true := by
      rw [isFile, FileSystem.isFile, FileSystem.resolve, reach_sideBySide.1]
      rfl
    exact if_pos ha
  · have hb : sideBySide.isFile ⟨"/b.py"⟩ = true := by
      rw [isFile, FileSystem.isFile, FileSystem.resolve, reach_sideBySide.2]
      rfl
    exact if_pos hb

/-- So their configuration is that of the command line. -/
theorem resolve_sideBySide {p : Path} (hp : p ∈ [⟨"/"⟩, ⟨"/a.py"⟩, ⟨"/b.py"⟩]) :
    CommandLine.bothFiles.resolve sideBySide p = (.ok { command := "/fmt" }, []) :=
  CommandLine.resolve_of_discover_eq_nil rfl (discover_sideBySide hp)

/-- The hosts for the two files. -/
theorem openFile_sideBySide :
    FileHost.openFile sideBySide ⟨"/a.py"⟩ none "utf-8" .inPlace = .ok (.beside "/a.py" "x") ∧
      FileHost.openFile sideBySide ⟨"/b.py"⟩ none "utf-8" .inPlace =
        .ok (.beside "/b.py" "y") := by
  simp only [FileHost.openFile, readFile, FileSystem.read, FileSystem.resolve,
    FileSystem.reach_eq_reachBy]
  decide +kernel

/-- The formatter is found, and has something to correct in one of them. -/
theorem action_sideBySide :
    let attempt (h : FileHost) := attemptWith (sideBySide.service .unix).start sideBySide
      { command := "/fmt" } .unix (h.view sideBySide) .format
    (attempt (.beside "/a.py" "x")).action = .ok (.replace "z") ∧
      (attempt (.beside "/b.py" "y")).action = .ok .keep := by
  unfold attemptWith
  simp only [service, Formatter.start, Formatter.spawn, Formatter.enter, Formatter.findExecutable,
    Formatter.executableAt, FileSystem.resolve, FileSystem.reach_eq_reachBy]
  decide +kernel

/-- The files once one of them is corrected. -/
def correctedFiles : FileSystem :=
  ⟨[(["a.py"], .file [0x7A] false), (["b.py"], .file [0x79] false), (["fmt"], .file [] true)]⟩

/-- The correction can be written. -/
theorem writeFile_sideBySide :
    sideBySide.writeFile ⟨"/a.py"⟩ [0x7A] = .ok { sideBySide with files := correctedFiles } := by
  have hwrite : sideBySide.files.write sideBySide.cwd ⟨"/a.py"⟩ [0x7A] = .ok correctedFiles := by
    rw [FileSystem.write, reach_sideBySide.1]
    rfl
  rw [writeFile, if_neg (by decide), hwrite]

/-- What a run over the one file and a run over the other are bound to come to. -/
theorem ofQueued_sideBySide :
    let setup : Batch.Setup :=
      { line := .bothFiles, platform := .unix, base := { command := "/fmt" } }
    let ending := Ending.ofQueued setup (sideBySide.service .unix) sideBySide
    ((ending ⟨"/a.py"⟩).result = .ok .reformatted ∧
        (ending ⟨"/a.py"⟩).world = { sideBySide with files := correctedFiles }) ∧
      (ending ⟨"/b.py"⟩).result = .ok .unchanged ∧ (ending ⟨"/b.py"⟩).world = sideBySide := by
  intro setup ending
  have ha : setup.configFor sideBySide ⟨"/a.py"⟩ = _ :=
    resolve_sideBySide (List.mem_cons_of_mem _ List.mem_cons_self)
  have hb : setup.configFor sideBySide ⟨"/b.py"⟩ = _ :=
    resolve_sideBySide (List.mem_cons_of_mem _ (List.mem_cons_of_mem _ List.mem_cons_self))
  rcases Ending.ofQueued_of_action (congrArg Prod.fst ha) openFile_sideBySide.1
    action_sideBySide.1 with ⟨hresult, hworld⟩
  rcases Ending.ofQueued_of_action (congrArg Prod.fst hb) openFile_sideBySide.2
    action_sideBySide.2 with ⟨hresult', hworld'⟩
  have hencoded : encodeText "z" (FileHost.beside "/a.py" "x").encoding = .ok [0x7A] := by
    decide +kernel
  have hconclude := FileHost.concludeUnder_replace (r := .none) (h := .beside "/a.py" "x")
    hencoded rfl rfl writeFile_sideBySide .format
  rw [hresult, hworld, hresult', hworld']
  exact ⟨hconclude, rfl, rfl⟩

end World

/-- Neither of the files is the other, or a configuration file for it. -/
theorem Batch.apart_sideBySide :
    Batch.Apart .bothFiles .sideBySide (World.sideBySide.collect .bothFiles) := by
  rw [World.collect_sideBySide]
  refine ⟨List.pairwise_pair.mpr ?_, fun p hp q hq file hfile => ?_⟩
  · rintro ⟨loc, ha, hb⟩
    obtain rfl := Except.ok.inj (World.reach_sideBySide.1.symm.trans ha)
    exact absurd (Except.ok.inj (World.reach_sideBySide.2.symm.trans hb)) (by decide)
  · rw [CommandLine.configFilesFor, show CommandLine.bothFiles.config = none from rfl] at hfile
    simp only [World.discover_sideBySide (List.mem_cons_of_mem _ hq), List.map_nil,
      List.not_mem_nil] at hfile

/-- Two files that lie side by side are formatted in turn, by one process that finds something to
    correct and one that does not. -/
theorem runProgramUnder_interleaving_inTurn :
    let done := runProgramUnder Batch.inTurn .unix .sideBySide
      ["blackpipe", "--black-command", "/fmt", "/a.py", "/b.py"] {}
    done.Finished ∧
      done.SameAs (({ CommandLine.bothFiles with jobs := some 1 } : CommandLine).runUnder
        Batch.oneByOne .unix .sideBySide {}) ∧
      done.Complete { line := .bothFiles, platform := .unix, base := { command := "/fmt" } }
        .sideBySide ∧
      done.world.files.entry? ["a.py"] = some (.file [0x7A] false) ∧
      done.world.files.entry? ["b.py"] = some (.file [0x79] false) ∧
      done.tally = { reformatted := 1, unchanged := 1 } := by
  intro done
  have hparse : CommandLine.parse ["blackpipe", "--black-command", "/fmt", "/a.py", "/b.py"] =
      .ok .bothFiles := rfl
  have hfiles : CommandLine.bothFiles.readsStdin = false := rfl
  have hbase : (CommandLine.bothFiles.resolve .sideBySide World.sideBySide.cwdPath).1 =
      .ok { command := "/fmt" } := by
    rw [show World.sideBySide.cwdPath = ⟨"/"⟩ from rfl,
      World.resolve_sideBySide List.mem_cons_self]
  have hrun : done = CommandLine.bothFiles.runUnder Batch.inTurn .unix .sideBySide {} :=
    runProgramUnder_of_parse _ _ _ _ hparse
  have hcovers : Batch.Covers (Batch.inTurn (World.sideBySide.collect .bothFiles).length)
      (World.sideBySide.collect .bothFiles).length := by
    rw [World.collect_sideBySide]
    unfold Batch.Covers
    decide
  rcases runProgramUnder_interleaving Batch.inTurn .unix .sideBySide
    ["blackpipe", "--black-command", "/fmt", "/a.py", "/b.py"] {} .bothFiles { command := "/fmt" }
    hparse hfiles hbase Batch.apart_sideBySide with ⟨hfinished, hsame⟩
  have hdone : done.Finished := hfinished hcovers
  -- The batch has settled, so the files are as the runs over them were bound to leave them.
  have hdone' := hdone
  rw [hrun] at hdone'
  rcases CommandLine.bothFiles.settled_runUnder Batch.inTurn .unix {} hfiles hbase
    Batch.apart_sideBySide none hdone' with ⟨b, hb, hsettled⟩
  have hcompletion : done = b.completion .bothFiles .sideBySide := hrun.trans hb
  have hfile := hsettled.file
  have htally := hsettled.tally
  rcases World.ofQueued_sideBySide with ⟨⟨hchanged, ha⟩, hkept, hsame'⟩
  rw [World.collect_sideBySide] at hfile htally
  simp only [List.map_cons, List.map_nil, hchanged, hkept] at htally
  refine ⟨hdone, (hsame hdone).1, (hsame hdone).2, ?_, ?_, ?_⟩
  · rw [hcompletion]
    refine (hfile _ List.mem_cons_self _ World.reach_sideBySide.1).trans ?_
    rw [ha]
    rfl
  · rw [hcompletion]
    refine (hfile _ (List.mem_cons_of_mem _ List.mem_cons_self) _ World.reach_sideBySide.2).trans ?_
    rw [hsame']
    rfl
  · rw [hcompletion]
    exact htally

end BufferFormat
