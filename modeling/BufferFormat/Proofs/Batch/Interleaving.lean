import BufferFormat.Proofs.Batch.Report
import BufferFormat.Proofs.Batch.Sight
import BufferFormat.Proofs.Batch.Unavailable
import Mathlib.Data.List.Perm.Basic

/-!
# The order of the jobs does not matter

Jobs that run side by side share the files, the tally and what is said, and a schedule may let them
take their steps in any order. The module shows that a batch comes to the same in all of them, if no
two of its files are one and none of them is a configuration file for another.

Orders are not compared with each other. Instead, what a batch is bound to come to is a sum that no
step changes: what was done, and what is still to come from the jobs, as their endings tell it. In
the beginning everything is still to come and in the end nothing is, so a batch that is through has
done what was to come in the beginning, whatever the schedule was.

Two things can happen to a summand. The job whose turn it is moves something from what is to come to
what was done (`Job.Advances.continues`). The other jobs must not notice, and they do not, because
the one file that may have been written is neither theirs nor a configuration file of theirs
(`Batch.Independent.sameFor`).

Messages are the delicate part. The message that the formatter cannot be found is made once, by
whichever job comes first, so which job has it still to make does depend on the order. It is
therefore left out of what a job has to say for itself, and the flag that it leaves in the tally
stands for it.

## Main definitions

* `Job.due`, `Job.owed`, `Job.upcoming`: What is still to come from a job.
* `Job.Continues`: What a step of a job keeps.
* `Batch.Apart`: Files that a batch can work on side by side.
* `Batch.Independent`: A batch in which a run over a file does not depend on the others.
* `Batch.OnCourse`: A batch on its way to the endings that its jobs had in the beginning.
* `Batch.Settled`: A batch whose jobs have all come to them.

## Theorems

* `Job.Advances.continues`: What was done by a job and what is to come from it add up to the same.
* `Batch.onCourse_advance`, `Batch.onCourse_follow`: So they do for a batch, step by step and over
  all steps of a schedule.
* `Batch.settled_follow`: Once a schedule has finished every job, the batch has settled.
* `Batch.Settled.entry?_eq`: Where a batch has settled, its files do not show the order.
-/

namespace BufferFormat

/-! ## One job -/

namespace Job

section Pending

variable (setup : Batch.Setup) (service : Service) (w : World) (job : Job)

/-- The result that a job has still to report. -/
def due : List (Except Fault Applied) :=
  if job.stage.remaining = 0 then [] else [(job.ending setup service w).result]

/-- What a job has still to say for itself. -/
def owed : List String :=
  spoken (job.ending setup service w).effects.stderr ++
    (job.due setup service w).flatMap fun result =>
      spoken (Tally.ownReport setup.line.silent job.name result)

/-- The warnings that a job has still to raise. -/
def upcoming : List Warning :=
  (job.ending setup service w).effects.warnings

variable {job}

theorem due_of_open (h : 0 < job.stage.remaining) :
    job.due setup service w = [(job.ending setup service w).result] :=
  if_neg (Nat.ne_of_gt h)

theorem due_of_recorded (h : job.stage.remaining = 0) : job.due setup service w = [] :=
  if_pos h

end Pending

/-- What a step of a job keeps: its ending, and the sum of what was done and what is still to come.
    For messages the sum has a third part, the alarm that may have been raised. -/
structure Continues (setup : Batch.Setup) (service : Service) (alarm : String) (job : Job)
    (s : Shared) (next : Job) (s' : Shared) : Prop where
  result : (next.ending setup service s'.world).result = (job.ending setup service s.world).result
  world : (next.ending setup service s'.world).world = (job.ending setup service s.world).world
  tally : (next.due setup service s'.world).foldl Tally.count s'.tally =
    (job.due setup service s.world).foldl Tally.count s.tally
  said : ∃ said, s'.effects.stderr = s.effects.stderr ++ String.join said ∧
    s.tally.raised alarm ++ said ++ next.owed setup service s'.world =
      s'.tally.raised alarm ++ job.owed setup service s.world
  warnings : s'.effects.warnings ++ next.upcoming setup service s'.world =
    s.effects.warnings ++ job.upcoming setup service s.world

section Step

variable {setup : Batch.Setup} {service : Service} {alarm : String} {job : Job}
  {s : Shared}

/-- A step of a job keeps all that. -/
theorem Advances.continues {next : Job × Shared} (h : job.Advances setup service s next)
    (halarm : ∀ fault, (job.ending setup service s.world).result = .error fault →
      fault.isToolUnavailable = true → fault.alarm = alarm) :
    job.Continues setup service alarm s next.1 next.2 := by
  cases h with
  | proceed stage warnings invocations hopen hless hending =>
      -- Only warnings are raised on the way, and the ending has so many less to raise.
      have hnext : Job.ending setup service s.world ⟨job.name, stage⟩ =
        stage.ending setup service s.world := rfl
      have hdue := due_of_open setup service s.world (Nat.zero_lt_of_lt hless)
      have hdue' : Job.due setup service s.world ⟨job.name, stage⟩ = _ :=
        due_of_open setup service s.world hopen
      rw [hending] at hdue
      rw [hnext] at hdue'
      refine ⟨?_, ?_, ?_, ⟨[], ?_, ?_⟩, ?_⟩
      · rw [hending]
        rfl
      · rw [hending]
        rfl
      · simp only [Shared.emit, hdue, hdue', Ending.after]
      · simp only [Shared.emit, Effects.andThen, String.join_nil]
      · simp only [Shared.emit, owed, hdue, hdue', hending, hnext, Ending.after, Effects.andThen,
          String.empty_append, List.append_nil]
      · simp only [Shared.emit, upcoming, hending, hnext, Ending.after, Effects.andThen,
          List.append_assoc]
  | conclude hmore =>
      have hdue := due_of_open setup service s.world (Nat.zero_lt_of_lt hmore)
      have hdue' : ∀ w result, Job.due setup service w ⟨job.name, .ended result⟩ = [result] :=
        fun _ _ => rfl
      refine ⟨rfl, rfl, ?_, ⟨spoken (job.ending setup service s.world).effects.stderr, ?_, ?_⟩, ?_⟩
      · simp only [hdue, hdue']
      · simp only [Effects.andThen, join_spoken]
      · simp only [owed, hdue, hdue', ending, Stage.ending, spoken_empty, List.nil_append,
          List.append_assoc]
      · simp only [upcoming, ending, Stage.ending, Effects.andThen, List.append_nil]
  | record result hstage =>
      have hending : job.ending setup service s.world = ⟨result, {}, s.world⟩ := by
        simp only [ending, hstage, Stage.ending]
      have hdue : job.due setup service s.world = [result] := by
        rw [due_of_open setup service s.world (by rw [hstage]; exact Nat.one_pos), hending]
      have hnext : ∀ w, Job.ending setup service w ⟨job.name, .recorded result⟩ = ⟨result, {}, w⟩ :=
        fun _ => rfl
      have hdue' : ∀ w, Job.due setup service w ⟨job.name, .recorded result⟩ = [] := fun _ => rfl
      refine ⟨?_, ?_, ?_,
        ⟨spoken (s.tally.report setup.line.silent job.name result), ?_, ?_⟩, ?_⟩
      · rw [hending]
        rfl
      · rw [hending]
        rfl
      · simp only [hdue, hdue', List.foldl_cons, List.foldl_nil]
      · simp only [Shared.emit, Effects.andThen, join_spoken]
      · rw [hending] at halarm
        have hraised := Tally.raised_report halarm s.tally setup.line.silent job.name
        simp only [owed, hdue, hdue', hending, hnext, spoken_empty, List.flatMap_nil,
          List.flatMap_singleton, List.append_nil, List.nil_append, hraised]
      · simp only [Shared.emit, upcoming, hending, hnext, Effects.andThen, List.append_nil]
  | rest hdone =>
      refine ⟨rfl, rfl, rfl, ⟨[], ?_, ?_⟩, rfl⟩
      · rw [String.join_nil, String.append_empty]
      · rw [List.append_nil]

end Step

/-- What is still to come from the jobs, before and after one of them has changed. Nothing changes
    for the others. -/
theorem perm_flatMap_set {α : Type} {jobs : List Job} {i : Nat} {job : Job} (next : Job)
    {before after : Job → List α} (hjob : jobs[i]? = some job)
    (hothers : ∀ k other, k ≠ i → jobs[k]? = some other → after other = before other) :
    ∃ others, (jobs.flatMap before).Perm (before job ++ others) ∧
      ((jobs.set i next).flatMap after).Perm (after next ++ others) := by
  rcases List.getElem?_eq_some_iff.mp hjob with ⟨hlt, rfl⟩
  refine ⟨(jobs.eraseIdx i).flatMap before, ?_, ?_⟩
  · exact (List.getElem_cons_eraseIdx_perm hlt).symm.flatMap_right before
  · have hsame : (jobs.eraseIdx i).flatMap after = (jobs.eraseIdx i).flatMap before := by
      refine List.flatMap_congr fun other hother => ?_
      rcases List.mem_eraseIdx_iff_getElem?.mp hother with ⟨k, hk, hget⟩
      exact hothers k other hk hget
    rw [← hsame]
    exact (List.set_perm_cons_eraseIdx hlt next).flatMap_right after

end Job

/-- What is said moves from what is to come to what was said, and with it the alarm. -/
theorem perm_said {said more owed owed' rest rest' others raised raised' total : List String}
    (h : (said ++ rest).Perm (raised ++ total)) (hrest : rest.Perm (owed ++ others))
    (hrest' : rest'.Perm (owed' ++ others))
    (hstep : raised ++ more ++ owed' = raised' ++ owed) :
    ((said ++ more) ++ rest').Perm (raised' ++ total) := by
  refine List.perm_iff_count.mpr fun message => ?_
  have hmoved := congrArg (List.count message) hstep
  have := h.count_eq message
  have := hrest.count_eq message
  have := hrest'.count_eq message
  simp only [List.count_append] at *
  omega

/-! ## All jobs -/

namespace Batch

/-- Files that a batch can work on side by side. No two paths lead to the same file, and none leads
    to a configuration file that a run over one of them goes by. -/
structure Apart (line : CommandLine) (w : World) (paths : List Path) : Prop where
  differ : paths.Pairwise fun p q => ¬w.SameFile p q
  config : ∀ p ∈ paths, ∀ q ∈ paths, ∀ file ∈ line.configFilesFor w q, ¬w.SameFile p file

/-- A batch in which a run over a file does not depend on the runs over the others. The formatter
    does the same for all, whatever has been written, and those runs that cannot find it all say the
    same. -/
structure Independent (setup : Setup) (service : Service) (w : World)
    (paths : List Path) (alarm : String) : Prop where
  service_eq : ∀ i v, w.SameTree v → setup.services i v = service
  apart : Apart setup.line w paths
  alarm_eq : ∀ path ∈ paths, ∀ fault,
    (Ending.ofQueued setup service w path).result = .error fault →
      fault.isToolUnavailable = true → fault.alarm = alarm

/-- A batch on its way to the endings that its jobs had in the beginning. What was done and what is
    still to come add up to what was to come in the beginning, in whatever order it is done. -/
structure OnCourse (setup : Setup) (service : Service) (w : World) (paths : List Path)
    (alarm : String) (first : Effects) (b : Batch) : Prop where
  frame : b.Frame setup w (paths.map some)
  length : b.jobs.length = paths.length
  ends : ∀ (i : Nat) job path, b.jobs[i]? = some job → paths[i]? = some path →
    (job.ending setup service b.shared.world).result =
        (Ending.ofQueued setup service w path).result ∧
      ∀ loc, w.files.reach w.cwd path = .ok loc →
        (job.ending setup service b.shared.world).world.files.entry? loc =
          (Ending.ofQueued setup service w path).world.files.entry? loc
  tally : (b.jobs.flatMap (Job.due setup service b.shared.world)).foldl Tally.count b.shared.tally =
    Tally.ofResults (paths.map fun path => (Ending.ofQueued setup service w path).result)
  said : ∃ said, b.shared.effects.stderr = first.stderr ++ String.join said ∧
    (said ++ b.jobs.flatMap (Job.owed setup service b.shared.world)).Perm
      (b.shared.tally.raised alarm ++
        paths.flatMap fun path => (Job.ofPath path).owed setup service w)
  warnings : (b.shared.effects.warnings ++
      b.jobs.flatMap (Job.upcoming setup service b.shared.world)).Perm
    (first.warnings ++ paths.flatMap fun path => (Job.ofPath path).upcoming setup service w)

section Course

variable {setup : Setup} {service : Service} {w : World} {paths : List Path}
  {alarm : String} {first : Effects} {b : Batch}

/-- A step of one job looks the same to the others as no step. -/
theorem Independent.sameFor (h : Independent setup service w paths alarm)
    (hframe : b.Frame setup w (paths.map some)) {i k : Nat} {path other : Path} {v : World}
    {job : Job} (hi : paths[i]? = some path) (hk : paths[k]? = some other) (hne : k ≠ i)
    (htouches : Job.Touches setup w b.shared.world (some path) job v) :
    World.SameFor setup.line other b.shared.world v := by
  -- What was changed is the file of the job, and that is neither the file of another one ...
  refine ⟨htouches.sameTree hframe.sameTree,
    htouches.sameAt hframe.sameTree (not_sameFile_of_pairwise h.apart.differ hi hk hne),
    fun file hfile => htouches.sameAt hframe.sameTree ?_⟩
  -- ... nor a configuration file.
  rw [CommandLine.configFilesFor_eq hframe.sameTree] at hfile
  exact h.apart.config path (List.mem_of_getElem? hi) other (List.mem_of_getElem? hk) file hfile

/-- What is still to come from another job stays as it is. -/
theorem pending_of_agrees {job : Job} {v v' : World} {path : Path}
    (h : (job.ending setup service v).Agrees v path (job.ending setup service v')) :
    job.due setup service v' = job.due setup service v ∧
      job.owed setup service v' = job.owed setup service v ∧
      job.upcoming setup service v' = job.upcoming setup service v := by
  have hdue : job.due setup service v' = job.due setup service v := by
    simp only [Job.due, h.result]
  refine ⟨hdue, ?_, ?_⟩
  · simp only [Job.owed, hdue, h.effects]
  · simp only [Job.upcoming, h.effects]

/-- A step of one job keeps the batch on its way. -/
theorem onCourse_advance (hind : Independent setup service w paths alarm)
    (h : b.OnCourse setup service w paths alarm first) (i : Nat) :
    (b.advance setup i).OnCourse setup service w paths alarm first := by
  cases hjob : b.jobs[i]? with
  | none =>
      unfold advance
      rw [hjob]
      exact h
  | some job =>
      rcases h.frame.jobs i job hjob with ⟨target, htarget, hfor⟩
      rw [List.getElem?_map] at htarget
      rcases Option.map_eq_some_iff.mp htarget with ⟨path, hpath, rfl⟩
      have hlt := (List.getElem?_eq_some_iff.mp hjob).1
      have htree := h.frame.sameTree
      have hadvance := advance_of_get setup hjob
      have hframe : (b.advance setup i).Frame setup w (paths.map some) := frame_advance h.frame i
      have htouches := (Job.isFor_and_touches_step (i := i) hfor htree).2
      rcases h.ends i job path hjob hpath with ⟨hresult, hfile⟩
      have hstep := job.advances_step setup i b.shared
      rw [hind.service_eq i _ htree] at hstep
      have halarm := hind.alarm_eq path (List.mem_of_getElem? hpath)
      rw [← hresult] at halarm
      have hcontinues := hstep.continues halarm
      rw [hadvance] at hframe ⊢
      generalize job.step setup i b.shared = next at *
      rcases next with ⟨next, s⟩
      -- The others do not notice.
      have hothers : ∀ k other, k ≠ i → b.jobs[k]? = some other → ∃ target,
          paths[k]? = some target ∧ (other.ending setup service b.shared.world).Agrees
            b.shared.world target (other.ending setup service s.world) := by
        intro k other hne hother
        rcases h.frame.jobs k other hother with ⟨_, htarget', hfor'⟩
        rw [List.getElem?_map] at htarget'
        rcases Option.map_eq_some_iff.mp htarget' with ⟨target, hk, rfl⟩
        exact ⟨target, hk, Stage.ending_agrees hfor'.stage
          (hind.sameFor h.frame hpath hk hne htouches)⟩
      have hpending : ∀ k other, k ≠ i → b.jobs[k]? = some other →
          other.due setup service s.world = other.due setup service b.shared.world ∧
            other.owed setup service s.world = other.owed setup service b.shared.world ∧
            other.upcoming setup service s.world = other.upcoming setup service b.shared.world := by
        intro k other hne hother
        rcases hothers k other hne hother with ⟨target, _, hagrees⟩
        exact pending_of_agrees hagrees
      refine ⟨hframe, List.length_set.trans h.length, fun k other target hother hk => ?_, ?_, ?_,
        ?_⟩
      · by_cases hne : k = i
        · subst hne
          rw [List.getElem?_set_self hlt] at hother
          obtain rfl := Option.some.inj hother
          obtain rfl := Option.some.inj (hpath.symm.trans hk)
          exact ⟨hcontinues.result.trans hresult, hcontinues.world ▸ hfile⟩
        · rw [List.getElem?_set_ne (Ne.symm hne)] at hother
          rcases hothers k other hne hother with ⟨_, hk', hagrees⟩
          obtain rfl := Option.some.inj (hk'.symm.trans hk)
          rcases h.ends k other _ hother hk with ⟨hresult', hfile'⟩
          refine ⟨hagrees.result.trans hresult', fun loc hloc => ?_⟩
          rw [hagrees.file loc (by rw [htree.reach_eq]; exact hloc), hfile' loc hloc]
      · rcases Job.perm_flatMap_set next hjob
          (fun k other hne hother => (hpending k other hne hother).1) with
          ⟨others, hbefore, hafter⟩
        rw [← h.tally, Tally.foldl_count_perm hafter, Tally.foldl_count_perm hbefore,
          List.foldl_append, List.foldl_append, hcontinues.tally]
      · rcases Job.perm_flatMap_set next hjob
          (fun k other hne hother => (hpending k other hne hother).2.1) with
          ⟨others, hbefore, hafter⟩
        rcases h.said with ⟨said, hstderr, hsaid⟩
        rcases hcontinues.said with ⟨more, hmore, hmoved⟩
        refine ⟨said ++ more, ?_, perm_said hsaid hbefore hafter hmoved⟩
        rw [hmore, hstderr, String.join_append, String.append_assoc]
      · rcases Job.perm_flatMap_set next hjob
          (fun k other hne hother => (hpending k other hne hother).2.2) with
          ⟨others, hbefore, hafter⟩
        refine (hafter.append_left _).trans (List.Perm.trans ?_ h.warnings)
        rw [← List.append_assoc, hcontinues.warnings, List.append_assoc]
        exact (hbefore.append_left _).symm

/-- So do all steps of a schedule. -/
theorem onCourse_follow (hind : Independent setup service w paths alarm)
    (h : b.OnCourse setup service w paths alarm first) (schedule : List Nat) :
    (b.follow setup schedule).OnCourse setup service w paths alarm first := by
  induction schedule generalizing b with
  | nil => exact h
  | cons i schedule ih => exact ih (onCourse_advance hind h i)

/-- A batch begins on its way. -/
theorem onCourse_ofPath (shared : Shared) (hworld : shared.world = w)
    (htally : shared.tally = {}) :
    OnCourse setup service w paths alarm shared.effects ⟨paths.map Job.ofPath, shared⟩ where
  frame := frame_ofPath setup paths w shared hworld
  length := List.length_map _
  ends := by
    intro i job path hjob hpath
    rw [List.getElem?_map, hpath] at hjob
    cases hjob
    simp only [hworld]
    exact ⟨rfl, fun _ _ => rfl⟩
  tally := by
    simp only [hworld, htally, Tally.foldl_count, List.flatMap_map, Tally.empty_add]
    rw [List.map_eq_flatMap]
    rfl
  said := ⟨[], by rw [String.join_nil, String.append_empty], by
    simp only [hworld, htally, List.flatMap_map]
    exact .refl _⟩
  warnings := by
    simp only [hworld, List.flatMap_map]
    exact .refl _

/-- A batch whose jobs have all come to the endings that they had in the beginning. Nothing of it
    shows the order in which that happened, but for the order of what was said. -/
structure Settled (setup : Setup) (service : Service) (w : World) (paths : List Path)
    (alarm : String) (first : Effects) (b : Batch) : Prop where
  jobs : b.jobs = paths.map fun path => (Job.ofPath path).finished setup service w
  file : ∀ path ∈ paths, ∀ loc, w.files.reach w.cwd path = .ok loc →
    b.shared.world.files.entry? loc = (Ending.ofQueued setup service w path).world.files.entry? loc
  elsewhere : ∀ loc, (∀ path ∈ paths, w.files.reach w.cwd path ≠ .ok loc) →
    b.shared.world.files.entry? loc = w.files.entry? loc
  tally : b.shared.tally =
    Tally.ofResults (paths.map fun path => (Ending.ofQueued setup service w path).result)
  said : ∃ said, b.shared.effects.stderr = first.stderr ++ String.join said ∧
    said.Perm (b.shared.tally.raised alarm ++
      paths.flatMap fun path => (Job.ofPath path).owed setup service w)
  warnings : b.shared.effects.warnings.Perm
    (first.warnings ++ paths.flatMap fun path => (Job.ofPath path).upcoming setup service w)

/-- Where every job is recorded, there is nothing to come. -/
theorem OnCourse.settled (h : b.OnCourse setup service w paths alarm first)
    (hdone : ∀ job ∈ b.jobs, job.stage.remaining = 0) :
    b.Settled setup service w paths alarm first := by
  have hrecorded : ∀ job ∈ b.jobs, ∀ v, (job.ending setup service v).effects = {} ∧
      (job.ending setup service v).world = v ∧
      job.stage = .recorded (job.ending setup service v).result := by
    intro job hjob v
    rcases Stage.eq_recorded (hdone job hjob) with ⟨result, hstage⟩
    simp only [Job.ending, hstage, Stage.ending, and_self]
  have hget : ∀ (i : Nat) path, paths[i]? = some path → ∃ job, b.jobs[i]? = some job :=
    fun i path hpath => ⟨_, List.getElem?_eq_getElem
      (h.length.symm ▸ (List.getElem?_eq_some_iff.mp hpath).1)⟩
  have hdue : b.jobs.flatMap (Job.due setup service b.shared.world) = [] :=
    List.flatMap_eq_nil_iff.mpr fun job hjob => Job.due_of_recorded _ _ _ (hdone job hjob)
  have howed : b.jobs.flatMap (Job.owed setup service b.shared.world) = [] := by
    refine List.flatMap_eq_nil_iff.mpr fun job hjob => ?_
    simp only [Job.owed, Job.due_of_recorded _ _ _ (hdone job hjob), (hrecorded job hjob _).1,
      spoken_empty, List.flatMap_nil, List.append_nil]
  have hupcoming : b.jobs.flatMap (Job.upcoming setup service b.shared.world) = [] := by
    refine List.flatMap_eq_nil_iff.mpr fun job hjob => ?_
    simp only [Job.upcoming, (hrecorded job hjob _).1]
  have htally := h.tally
  have hsaid := h.said
  have hwarnings := h.warnings
  rw [hdue] at htally
  rw [hupcoming, List.append_nil] at hwarnings
  simp only [howed, List.append_nil] at hsaid
  refine ⟨?_, fun path hpath loc hloc => ?_, fun loc hnowhere => ?_, htally, hsaid, hwarnings⟩
  · refine List.ext_getElem? fun i => ?_
    rw [List.getElem?_map]
    cases hpath : paths[i]? with
    | none =>
        rw [List.getElem?_eq_none_iff] at hpath
        exact List.getElem?_eq_none (h.length.trans_le hpath)
    | some path =>
        rcases hget i path hpath with ⟨job, hjob⟩
        rcases h.frame.jobs i job hjob with ⟨target, htarget, hfor⟩
        rw [List.getElem?_map, hpath] at htarget
        cases htarget
        have hstage := (hrecorded job (List.mem_of_getElem? hjob) b.shared.world).2.2
        rw [(h.ends i job path hjob hpath).1] at hstage
        rcases job with ⟨name, stage⟩
        obtain rfl : stage = _ := hstage
        obtain rfl : name = _ := hfor.name_eq
        exact hjob
  · rcases List.getElem?_of_mem hpath with ⟨i, hi⟩
    rcases hget i path hi with ⟨job, hjob⟩
    rw [← (h.ends i job path hjob hi).2 loc hloc,
      (hrecorded job (List.mem_of_getElem? hjob) _).2.1]
  · by_contra hchanged
    rcases h.frame.changed loc hchanged with ⟨i, path, _, htarget, hreach, _, _⟩
    rw [List.getElem?_map] at htarget
    rcases Option.map_eq_some_iff.mp htarget with ⟨_, hpath, hsame⟩
    cases hsame
    exact hnowhere path (List.mem_of_getElem? hpath) hreach

/-- Once a schedule has finished every job, the batch has settled. -/
theorem settled_follow (hind : Independent setup service w paths alarm) (shared : Shared)
    (hworld : shared.world = w) (htally : shared.tally = {}) {schedule : List Nat}
    (hdone : ∀ job ∈ (follow setup ⟨paths.map Job.ofPath, shared⟩ schedule).jobs,
      job.stage.remaining = 0) :
    (follow setup ⟨paths.map Job.ofPath, shared⟩ schedule).Settled setup service w paths alarm
      shared.effects :=
  (onCourse_follow hind (onCourse_ofPath shared hworld htally) schedule).settled hdone

/-- Where a batch has settled, its files hold the same, whatever the order was. -/
theorem Settled.entry?_eq {b' : Batch} {first' : Effects}
    (h : b.Settled setup service w paths alarm first)
    (h' : b'.Settled setup service w paths alarm first') (loc : Location) :
    b.shared.world.files.entry? loc = b'.shared.world.files.entry? loc := by
  by_cases hsome : ∃ path ∈ paths, w.files.reach w.cwd path = .ok loc
  · rcases hsome with ⟨path, hpath, hloc⟩
    rw [h.file path hpath loc hloc, h'.file path hpath loc hloc]
  · have hnowhere : ∀ path ∈ paths, w.files.reach w.cwd path ≠ .ok loc :=
      fun path hpath hloc => hsome ⟨path, hpath, hloc⟩
    rw [h.elsewhere loc hnowhere, h'.elsewhere loc hnowhere]

end Course

end Batch

end BufferFormat
