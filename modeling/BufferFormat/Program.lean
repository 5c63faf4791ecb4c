import BufferFormat.Batch.Collect
import BufferFormat.Batch.Schedule
import BufferFormat.CommandLine.Help
import BufferFormat.CommandLine.Parse

/-!
# The program

A whole run of the program, from its command line to its exit status. Whoever names nothing and sits
at a terminal is told how the program is used. In every other run the configuration for the working
directory comes first. It must be usable even where every file has its own, as it decides how the
program itself behaves.

Files may be formatted side by side, so a run is told in which order their jobs take their steps:
`runProgramUnder` and its like take any order, and `runProgram` is the case in which one file is
finished before the next. The order is only followed where the program leaves it open. What is
printed for the files must not mix, so with diffs and results on standard output they are formatted
one after the other.

What the formatter does is the world's business, and so is what becomes of a file that is written.
For a run it only matters what the system answers: `runProgramWith` and its like take any answers.

A refused write leaves the file as it was, and a refused print has printed nothing. That a full disk
may cut a file short is beyond this account.

## Main definitions

* `StandardInput`: What can be read from standard input, and whether it is a terminal.
* `Completion`: What a run of the program leaves behind.
* `CommandLine.readsStdin`: Whether standard input is to be formatted.
* `CommandLine.onlyExplains`: Whether the program only explains itself.
* `CommandLine.isSequential`, `CommandLine.orderUnder`: Where the order of the jobs is left open.
* `CommandLine.batchUnder`: The jobs for the files that a command line names.
* `CommandLine.runWith`: A run for a command line that was read, in any order and with any system.
* `CommandLine.runUnder`: A run with the formatter that the world holds.
* `runProgramWith`: A run of the program, in any order and with any system.
* `runProgramUnder`: A run of the program, in any order.
* `runProgram`: A run of the program.
-/

namespace BufferFormat

/-- Standard input as a run finds it. -/
structure StandardInput where
  bytes : List UInt8 := []
  /-- Whether it is a terminal, at which nobody may have meant to type anything. -/
  terminal : Bool := false
  deriving DecidableEq, Repr

/-- What a run of the program leaves behind. -/
structure Completion where
  world : World
  effects : Effects
  status : Nat
  /-- The runs over the single files, as far as they got. -/
  jobs : List Job := []
  tally : Tally := {}

/-- A run that only prints. -/
def Completion.printing (w : World) (effects : Effects) (status : Nat) : Completion :=
  { world := w, effects, status }

namespace CommandLine

/-- Whether standard input is to be formatted: where there are no files, or a single dash. -/
def readsStdin (line : CommandLine) : Bool :=
  line.inputs.isEmpty || line.inputs == [⟨"-"⟩]

/-- Whether the program only explains itself: where there are no files, and a terminal stands in
    for what is to be formatted. -/
def onlyExplains (line : CommandLine) (input : StandardInput) : Bool :=
  line.inputs.isEmpty && input.terminal

/-- Whether files are formatted one after the other. What is printed for them must not mix. -/
def isSequential (line : CommandLine) : Bool :=
  line.stdout || line.diff || line.jobs == some 1

/-- The order in which the jobs of a command line take their steps, where they would take them in
    `order` if they ran side by side. -/
def orderUnder (order : Batch.Order) (line : CommandLine) : Batch.Order :=
  if line.isSequential then Batch.oneByOne else order

/-- What is said about arguments that name nothing. -/
def skipped (line : CommandLine) (w : World) : String :=
  if line.silent then ""
  else String.join ((w.missing line).map fun input =>
    "Skipping " ++ input.text ++ ": no such file or directory\n")

/-- What is said when no files were found. -/
def nothingFound (line : CommandLine) : String :=
  if line.silent then "" else "No Python files found to format.\n"

/-- What is said at the end of a batch. The output of diffs and replacements goes without. -/
def closing (line : CommandLine) (tally : Tally) : String :=
  if line.silent || line.diff || line.stdout then "" else tally.summary

/-- Format standard input. -/
def runStdin (setup : Batch.Setup) (shared : Shared) (input : List UInt8) :
    Completion :=
  let b := Batch.run setup ⟨[Job.ofStdin setup input], shared⟩
  ⟨b.shared.world, b.shared.effects, b.shared.tally.exitStatus, b.jobs, b.shared.tally⟩

/-- The jobs for the files that the command line names, after the steps of an order. -/
def batchUnder (order : Batch.Order) (setup : Batch.Setup) (shared : Shared) : Batch :=
  let jobs := (shared.world.collect setup.line).map Job.ofPath
  Batch.follow setup ⟨jobs, shared⟩ (order jobs.length)

/-- Format the files that the command line names, in any order that it leaves open. -/
def runFilesUnder (order : Batch.Order) (setup : Batch.Setup) (shared : Shared) : Completion :=
  let line := setup.line
  let shared := shared.emit { stderr := line.skipped shared.world }
  if (shared.world.collect line).isEmpty then
    let shared := shared.emit { stderr := line.nothingFound }
    .printing shared.world shared.effects 0
  else
    let b := batchUnder (line.orderUnder order) setup shared
    let shared := b.shared.emit { stderr := line.closing b.shared.tally }
    ⟨shared.world, shared.effects, shared.tally.exitStatus, b.jobs, shared.tally⟩

/-- A run for a command line that was read, in any order and with any system. -/
def runWith (services : Batch.Services) (order : Batch.Order) (line : CommandLine)
    (platform : Platform) (w : World) (input : StandardInput) : Completion :=
  if line.onlyExplains input then
    -- Help that was asked for shows the name under which the program was started. This does not.
    .printing w { stdout := Utf8.encode (helpText ownName).toList } 0
  else
    match line.resolve w w.cwdPath with
    | (.error fault, warnings) =>
      .printing w { warnings, stderr := "Error: " ++ fault.message ++ "\n" } 1
    | (.ok base, warnings) =>
      let setup : Batch.Setup := { line, platform, base, services }
      let shared : Shared := { world := w, effects := { warnings } }
      if line.readsStdin then runStdin setup shared input.bytes
      else runFilesUnder order setup shared

/-- A run for a command line that was read, in any order. -/
def runUnder (order : Batch.Order) (line : CommandLine) (platform : Platform) (w : World)
    (input : StandardInput) : Completion :=
  line.runWith (Batch.held platform) order platform w input

end CommandLine

/-- A run of the program, in any order and with any system. -/
def runProgramWith (services : Batch.Services) (order : Batch.Order) (platform : Platform)
    (w : World) (argv : List String) (input : StandardInput) : Completion :=
  match CommandLine.parse argv with
  | .ok line => line.runWith services order platform w input
  | .error (.asked query) =>
    .printing w { stdout := Utf8.encode (query.text (programName argv)).toList } 0
  | .error (.misused error) => .printing w { stderr := "error: " ++ error.message ++ "\n" } 2

/-- A run of the program, in any order. -/
def runProgramUnder (order : Batch.Order) (platform : Platform) (w : World) (argv : List String)
    (input : StandardInput) : Completion :=
  runProgramWith (Batch.held platform) order platform w argv input

/-- A run of the program on what is sent to it, one file after the other. -/
def runProgram (platform : Platform) (w : World) (argv : List String) (input : List UInt8) :
    Completion :=
  runProgramUnder Batch.oneByOne platform w argv { bytes := input }

end BufferFormat
