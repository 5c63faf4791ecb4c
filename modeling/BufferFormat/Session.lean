import BufferFormat.Encoding.Declaration
import BufferFormat.Formatter.Arguments
import BufferFormat.Formatter.Launch
import BufferFormat.Host.View
import BufferFormat.Locale
import BufferFormat.Verdict

/-!
# One run over a buffer

A run settles the encoding, encodes the buffer, starts the formatter and reaches a verdict. Nothing
is kept from one run to the next.

## Main definitions

* `Prepared`: A request, and the encoding it was built with.
* `prepare`: The request for a buffer.
* `Attempt`: What a run did, up to the point where the host acts.
* `attemptWith`: A whole run, with any formatter.
* `attempt`: A whole run, with the formatter that the world holds.
-/

namespace BufferFormat

/-- A request that is ready to run. -/
structure Prepared where
  request : Formatter.Request
  /-- The label that both directions use. -/
  encoding : String
  deriving DecidableEq, Repr

/-- The arguments that a mode adds. -/
def Mode.extraArgs : Mode → List String
  | .format => []
  | .diff => [Formatter.diffFlag]

/-- The request for the buffer of a host. -/
def prepare (w : World) (config : Config) (platform : Platform) (view : View) (mode : Mode) :
    Except Fault Prepared := do
  let label := negotiate view.buffer.encoding view.buffer.text.toList config.defaultEncoding
  let input ← encodeText view.buffer.text label
  .ok {
    request := {
      args := Formatter.commandLine config view.file mode.extraArgs
      env := Locale.provide w.env true platform (Locale.ofEnvironment w.env)
      cwd := Formatter.workingDir view.file view.folders
      input }
    encoding := label }

/-- What a run did, up to the point where the host acts. -/
structure Attempt where
  /-- The invocation, if the formatter was started. -/
  invocation : Option Invocation
  warnings : List Warning
  action : Except Fault Action

/-- A run that stopped before the formatter was started. -/
def Attempt.stopped (fault : Fault) : Attempt :=
  ⟨none, [], .error fault⟩

/-- Run a formatter over the buffer of a host. -/
def attemptWith (start : Formatter.Starter) (w : World) (config : Config) (platform : Platform)
    (view : View) (mode : Mode) : Attempt :=
  match prepare w config platform view mode with
  | .error fault => .stopped fault
  | .ok prepared =>
    match start prepared.request with
    | .error fault => .stopped fault
    | .ok (invocation, outcome) =>
      let ctx : Context := ⟨prepared.encoding, prepared.request.input, mode, config.markers⟩
      ⟨some invocation, verdictWarnings outcome ctx, verdict outcome ctx view.file⟩

/-- Run the formatter over the buffer of a host. -/
def attempt (w : World) (config : Config) (platform : Platform) (view : View) (mode : Mode) :
    Attempt :=
  attemptWith (Formatter.start w · platform) w config platform view mode

end BufferFormat
