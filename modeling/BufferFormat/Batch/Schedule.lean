import BufferFormat.Batch.Job

/-!
# Schedules

The jobs of a batch may run one after the other or side by side. A schedule says whose turn it is:
each entry is a step of one job, so that every interleaving of the jobs is a schedule.

## Main definitions

* `Batch`: Jobs and what they have in common.
* `Batch.advance`: A step of one job.
* `Batch.follow`: The steps of a schedule.
* `Batch.Order`: A schedule for any number of jobs.
* `Batch.oneByOne`: The order that finishes each job before the next.
-/

namespace BufferFormat

/-- Jobs and what they have in common. -/
structure Batch where
  jobs : List Job
  shared : Shared

namespace Batch

/-- A step of the job at a position. -/
def advance (setup : Setup) (b : Batch) (i : Nat) : Batch :=
  match b.jobs[i]? with
  | none => b
  | some job =>
    let (job, shared) := job.step setup i b.shared
    ⟨b.jobs.set i job, shared⟩

/-- The steps of a schedule, one after the other. -/
def follow (setup : Setup) (b : Batch) (schedule : List Nat) : Batch :=
  schedule.foldl (advance setup) b

/-- A schedule for any number of jobs. -/
abbrev Order := Nat → List Nat

/-- How many steps finish a job from any stage. -/
def mostSteps : Nat := 5

/-- The order that finishes each job before the next. -/
def oneByOne : Order :=
  fun n => (List.range n).flatMap (List.replicate mostSteps)

/-- Run all jobs of a batch, one after the other. -/
def run (setup : Setup) (b : Batch) : Batch :=
  b.follow setup (oneByOne b.jobs.length)

end Batch

end BufferFormat
