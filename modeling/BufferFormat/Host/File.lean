import BufferFormat.Host.Effects
import BufferFormat.Session

/-!
# A host backed by a file

The buffer is the contents of a file or of standard input. It is decoded by an encoding that is
given, declared in the text or taken as the default, and a replacement is encoded the same way and
goes back to the file or to standard output.

Whether the system takes what is written is not up to the host. Each operation comes in two forms:
`performUnder` and its like are told which writes are refused, and `perform` and its like are the
case in which nothing is.

## Main definitions

* `Output`: Where a replacement goes.
* `Refusals`: What the system refuses during a step.
* `FileHost`: The buffer and where it came from.
* `FileHost.ofBytes`, `FileHost.openFile`: Decoding a file.
* `FileHost.performUnder`, `FileHost.finishUnder`: Carrying out an action, and ending a run.
* `FileHost.runUnder`: A run over the buffer with any formatter.
* `FileHost.run`: A run with the formatter that the world holds.
-/

namespace BufferFormat

/-- Where a replacement goes. -/
inductive Output where
  /-- Over the file. -/
  | inPlace
  /-- To standard output, with the file left alone. -/
  | stdout
  deriving DecidableEq, Repr

/-- What the system refuses during a step, and with which fault. -/
structure Refusals where
  /-- Replacing the file. -/
  file : Option Fault
  /-- Printing on standard output. -/
  output : Option Fault
  deriving DecidableEq, Repr

/-- A system that refuses nothing. -/
def Refusals.none : Refusals := ⟨.none, .none⟩

/-- Print bytes on standard output. -/
def Refusals.print (r : Refusals) (bytes : List UInt8) : Except Fault Effects :=
  match r.output with
  | some fault => .error fault
  | .none => .ok { stdout := bytes }

/-- A host backed by a file, or by standard input where there is no path. -/
structure FileHost where
  path : Option Path
  text : String
  encoding : String
  output : Output
  /-- Suppress status messages. -/
  silent : Bool := false
  /-- Whether the text was ever replaced. -/
  replaced : Bool := false
  deriving DecidableEq, Repr

/-- What a step of a file host leaves behind. -/
structure FileHost.Step (α : Type) where
  host : FileHost
  world : World
  effects : Effects
  result : Except Fault α

namespace FileHost

/-- The name of a buffer in messages. -/
def nameOf (path : Option Path) : String :=
  (path.map Path.text).getD "stdin"

/-- The name of the buffer in messages. -/
def name (h : FileHost) : String :=
  nameOf h.path

/-- The label for the contents of a file. A declaration is ASCII, so a lossy reading is enough to
    find one. -/
def labelFor (bytes : List UInt8) (declared : Option String) (default : String) : String :=
  negotiate declared (Utf8.lossy bytes) default

/-- A host for the contents of a file. -/
def ofBytes (path : Option Path) (bytes : List UInt8) (declared : Option String)
    (default : String) (output : Output) : Except Fault FileHost :=
  let label := labelFor bytes declared default
  match decodeBytes bytes label with
  | .ok text => .ok { path, text, encoding := label, output }
  | .error fault => .error (.during ("cannot decode " ++ nameOf path) fault)

/-- A host for a file. -/
def openFile (w : World) (path : Path) (declared : Option String) (default : String)
    (output : Output) : Except Fault FileHost :=
  match w.readFile path with
  | .ok bytes => ofBytes (some path) bytes declared default output
  | .error fault => .error (.during ("failed to read " ++ path.text) fault)

/-- A host for standard input, whose results can only go to standard output. -/
def ofStdin (bytes : List UInt8) (declared : Option String) (default : String) :
    Except Fault FileHost :=
  ofBytes none bytes declared default .stdout

/-- What a run reads. The only open folder is the working directory. -/
def view (h : FileHost) (w : World) : View :=
  ⟨⟨h.text, some h.encoding⟩, h.path, [w.cwdPath]⟩

/-- Replace the whole text, in the file or on standard output. The text is kept only once the
    bytes are out. -/
def replaceTextUnder (r : Refusals) (h : FileHost) (w : World) (text : String) : Step Unit :=
  match encodeText text h.encoding with
  | .error fault => ⟨h, w, .none, .error fault⟩
  | .ok bytes =>
    match h.path, h.output with
    | some path, .inPlace =>
      match w.writeFileUnless r.file path bytes with
      | .error fault => ⟨h, w, .none, .error (.during ("failed to write " ++ path.text) fault)⟩
      | .ok w' => ⟨{ h with text, replaced := true }, w', .none, .ok ()⟩
    | _, _ =>
      match r.print bytes with
      | .error fault => ⟨h, w, .none, .error fault⟩
      | .ok effects => ⟨{ h with text, replaced := true }, w, effects, .ok ()⟩

/-- Replace the whole text. -/
def replaceText (h : FileHost) (w : World) (text : String) : Step Unit :=
  h.replaceTextUnder .none w text

/-- Show a message on standard error. -/
def notify (h : FileHost) (message : String) : Effects :=
  if h.silent then .none else { stderr := h.name ++ ": " ++ message ++ "\n" }

/-- A text as it is shown, under its title. -/
def panelText (h : FileHost) (label text : String) : String :=
  (if h.silent then "" else "=== " ++ label ++ " ===\n") ++ text

/-- Print a text on standard output, under its title. -/
def openPanelUnder (r : Refusals) (h : FileHost) (label text : String) : Except Fault Effects :=
  r.print (Utf8.encode (h.panelText label text).toList)

/-- Print a text on standard output, under its title. -/
def openPanel (h : FileHost) (label text : String) : Effects :=
  { stdout := Utf8.encode (h.panelText label text).toList }

/-- Carry out an action. -/
def performUnder (r : Refusals) (h : FileHost) (w : World) (action : Action) : Step Applied :=
  match action with
  | .reject _ message => ⟨h, w, h.notify message, .ok action.applied⟩
  | .keep => ⟨h, w, h.notify alreadyFormatted, .ok action.applied⟩
  | .showDiff label text =>
    match h.openPanelUnder r label text with
    | .error fault => ⟨h, w, .none, .error fault⟩
    | .ok effects => ⟨h, w, effects, .ok action.applied⟩
  | .replace text =>
    let step := h.replaceTextUnder r w text
    ⟨step.host, step.world, step.effects, step.result.map fun _ => action.applied⟩

/-- Carry out an action. -/
def perform (h : FileHost) (w : World) (action : Action) : Step Applied :=
  h.performUnder .none w action

/-- End a run. A host that prints must not leave its output empty, so the text goes there if it was
    never replaced. -/
def finishUnder (r : Refusals) (h : FileHost) (applied : Applied) : Except Fault Effects :=
  match h.output, h.replaced, applied with
  | .stdout, false, .unchanged | .stdout, false, .rejected _ => do
    r.print (← encodeText h.text h.encoding)
  | _, _, _ => .ok .none

/-- The bytes that the end of a run prints. -/
def finish (h : FileHost) (applied : Applied) : Except Fault (List UInt8) :=
  (h.finishUnder .none applied).map (·.stdout)

/-- A run over the buffer with any formatter. -/
def runUnder (start : Formatter.Starter) (r : Refusals) (h : FileHost) (w : World)
    (config : Config) (platform : Platform) (mode : Mode) : Step Applied :=
  let a := attemptWith start w config platform (h.view w) mode
  let started : Effects := { warnings := a.warnings, invocations := a.invocation.toList }
  match a.action with
  | .error fault => ⟨h, w, started, .error fault⟩
  | .ok action =>
    let step := h.performUnder r w action
    { step with effects := started.andThen step.effects }

/-- A run over the buffer. -/
def run (h : FileHost) (w : World) (config : Config) (platform : Platform) (mode : Mode) :
    Step Applied :=
  h.runUnder (Formatter.start w · platform) .none w config platform mode

end FileHost

end BufferFormat
