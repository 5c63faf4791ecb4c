import BufferFormat.Batch.Tally
import BufferFormat.Config.Resolve
import BufferFormat.Host.File

/-!
# Jobs

A job is the run over one file. It goes through stages, and every step looks at the world as the
other jobs left it: the configuration is resolved, the file is read, the formatter is started, the
result is written, and the end is recorded. Whatever stops a job takes it to its end.

## Main definitions

* `Stage`, `Job`: A run over one file.
* `Service`, `Batch.Services`: What the system does for each job.
* `World.service`, `Batch.held`: A system with the formatter that the world holds.
* `Batch.Setup`: What all jobs go by.
* `Shared`: What the jobs of a batch have in common.
* `FileHost.concludeUnder`: The end of a run over a file.
* `Job.step`: One step of a job.
* `Stage.remaining`: How many steps a job is away from its end.
-/

namespace BufferFormat

/-- How far the run over a file is. -/
inductive Stage where
  | queued (path : Path)
  /-- The configuration is resolved. -/
  | resolved (path : Path) (config : Config)
  /-- The file is read. -/
  | opened (config : Config) (host : FileHost)
  /-- The formatter has answered. -/
  | answered (host : FileHost) (action : Action)
  /-- The result is written, or something stopped the run. -/
  | ended (result : Except Fault Applied)
  | recorded (result : Except Fault Applied)

/-- The run over one file, or over standard input. -/
structure Job where
  /-- What the file is called in messages. -/
  name : String
  stage : Stage

/-- What the system does for a job. -/
structure Service where
  /-- What comes of starting the formatter. -/
  start : Formatter.Starter
  /-- What is refused when the result is to be written. -/
  refusals : Refusals := .none

/-- What the system does in a world for the job at each position of a batch. -/
abbrev Batch.Services := Nat → World → Service

/-- To start the formatter that the world holds, and to refuse nothing. -/
def World.service (w : World) (platform : Platform) : Service where
  start := (Formatter.start w · platform)

/-- A system that does this for every job. -/
def Batch.held (platform : Platform) : Batch.Services :=
  fun _ w => w.service platform

/-- What all jobs of a batch go by. -/
structure Batch.Setup where
  line : CommandLine
  platform : Platform
  /-- The configuration for the working directory. -/
  base : Config
  services : Batch.Services := Batch.held platform

/-- What the jobs of a batch have in common. -/
structure Shared where
  world : World
  tally : Tally := {}
  effects : Effects := {}

namespace Shared

/-- Add effects to those that there were. -/
def emit (s : Shared) (effects : Effects) : Shared :=
  { s with effects := s.effects.andThen effects }

/-- Add warnings to those that there were. -/
def warn (s : Shared) (warnings : List Warning) : Shared :=
  s.emit { warnings }

end Shared

/-- What a command line asks the formatter for. -/
def CommandLine.mode (line : CommandLine) : Mode :=
  if line.diff then .diff else .format

/-- Where a command line wants replacements to go. -/
def CommandLine.output (line : CommandLine) : Output :=
  if line.stdout then .stdout else .inPlace

/-- Carry out an action and end the run. A diff leaves nothing to be ended. -/
def FileHost.concludeUnder (r : Refusals) (h : FileHost) (w : World) (action : Action)
    (mode : Mode) : FileHost.Step Applied :=
  let step := h.performUnder r w action
  match mode, step.result with
  | .format, .ok applied =>
    match step.host.finishUnder r applied with
    | .ok effects => { step with effects := step.effects.andThen effects }
    | .error fault => { step with result := .error fault }
  | _, _ => step

namespace Batch.Setup

/-- The configuration for a file. A configuration file that the command line names holds for all. -/
def configFor (setup : Batch.Setup) (w : World) (path : Path) :
    Except Fault Config × List Warning :=
  match setup.line.config with
  | some _ => (.ok setup.base, [])
  | none => setup.line.resolve w path

end Batch.Setup

namespace Job

/-- A job for a file. -/
def ofPath (path : Path) : Job :=
  ⟨path.text, .queued path⟩

/-- A job for standard input, which is read at once. -/
def ofStdin (setup : Batch.Setup) (input : List UInt8) : Job :=
  ⟨FileHost.nameOf none,
    match FileHost.ofStdin input setup.line.encoding setup.base.defaultEncoding with
    | .ok host => .opened setup.base { host with silent := setup.line.silent }
    | .error fault => .ended (.error fault)⟩

/-- One step of the job at a position. -/
def step (setup : Batch.Setup) (i : Nat) (job : Job) (s : Shared) : Job × Shared :=
  match job.stage with
  | .queued path =>
    match setup.configFor s.world path with
    | (.ok config, warnings) => ({ job with stage := .resolved path config }, s.warn warnings)
    | (.error fault, warnings) => ({ job with stage := .ended (.error fault) }, s.warn warnings)
  | .resolved path config =>
    match FileHost.openFile s.world path setup.line.encoding config.defaultEncoding
      setup.line.output with
    | .ok host =>
      ({ job with stage := .opened config { host with silent := setup.line.silent } }, s)
    | .error fault => ({ job with stage := .ended (.error fault) }, s)
  | .opened config host =>
    let a := attemptWith (setup.services i s.world).start s.world config setup.platform
      (host.view s.world) setup.line.mode
    let s := s.emit { warnings := a.warnings, invocations := a.invocation.toList }
    match a.action with
    | .ok action => ({ job with stage := .answered host action }, s)
    | .error fault => ({ job with stage := .ended (.error fault) }, s)
  | .answered host action =>
    let done := host.concludeUnder (setup.services i s.world).refusals s.world action
      setup.line.mode
    ({ job with stage := .ended done.result },
      { s with world := done.world, effects := s.effects.andThen done.effects })
  | .ended result =>
    ({ job with stage := .recorded result },
      { s.emit { stderr := s.tally.report setup.line.silent job.name result } with
        tally := s.tally.count result })
  | .recorded _ => (job, s)

end Job

/-- How many steps a job is away from its end, at most. -/
def Stage.remaining : Stage → Nat
  | .queued _ => 5
  | .resolved .. => 4
  | .opened .. => 3
  | .answered .. => 2
  | .ended _ => 1
  | .recorded _ => 0

end BufferFormat
