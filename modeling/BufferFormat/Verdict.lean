import BufferFormat.Formatter.Outcome
import BufferFormat.Warning

/-!
# Verdicts

What an outcome means for the buffer. The verdict is reached before the host is touched, so a
fault on the way leaves the host as it was.

A run that failed is shown to the user. A successful run counts as a change when its messages say
so; where they say nothing, the output decides, byte by byte.

## Main definitions

* `Mode`: Formatting or showing a diff.
* `Action`: What the host is asked to do.
* `Applied`: What a run came to.
* `countsAsChange`: Whether a successful run changed anything.
* `verdict`: The action that an outcome calls for.
-/

namespace BufferFormat

/-- What the user asked for. -/
inductive Mode where
  | format
  | diff
  deriving DecidableEq, Repr

/-- What a run came to. -/
inductive Applied where
  | reformatted
  | unchanged
  | rejected (status : Int)
  | diffShown
  deriving DecidableEq, Repr

/-- What the host is asked to do. -/
inductive Action where
  /-- Show why the formatter refused the buffer. -/
  | reject (status : Int) (message : String)
  /-- Say that there is nothing to do. -/
  | keep
  /-- Replace the whole text. -/
  | replace (text : String)
  /-- Show a diff beside the buffer. -/
  | showDiff (label text : String)
  deriving DecidableEq, Repr

/-- What a run comes to when its action is carried out. -/
def Action.applied : Action → Applied
  | .reject status _ => .rejected status
  | .keep => .unchanged
  | .replace _ => .reformatted
  | .showDiff .. => .diffShown

/-- What is said when there is nothing to do. -/
def alreadyFormatted : String := "Black: already well formatted!"

/-- The highlighting of a diff. -/
def diffSyntax : String := "Diff"

/-- What a verdict depends on besides the outcome. -/
structure Context where
  /-- The label under which the input was encoded. -/
  encoding : String
  /-- The bytes that were sent. -/
  input : List UInt8
  mode : Mode
  markers : Markers
  deriving DecidableEq, Repr

/-- Whether the output of a run differs from what no change looks like. -/
def outputDiffers (outcome : Outcome) (ctx : Context) : Bool :=
  match ctx.mode with
  | .diff => !outcome.stdout.all Text.isBlankByte
  | .format => outcome.stdout != ctx.input

/-- Whether a successful run changed anything. -/
def countsAsChange (outcome : Outcome) (ctx : Context) : Bool :=
  match classify outcome.stderr ctx.markers with
  | .reformatted => true
  | .unchanged => false
  | .unrecognized => outputDiffers outcome ctx

/-- A diff as it is shown: without surrounding blanks, and with one line end. -/
def renderDiff (stdout : List UInt8) (encoding : String) : Except Fault String := do
  let text ← decodeBytes stdout encoding
  .ok (Text.trim text ++ "\n")

/-- The title of a diff. -/
def diffLabel (file : Option Path) : String :=
  "Black diff: " ++ (file.bind Path.fileName?).getD "untitled"

/-- The warnings that an outcome gives rise to. -/
def verdictWarnings (outcome : Outcome) (ctx : Context) : List Warning :=
  if outcome.success ∧ classify outcome.stderr ctx.markers = .unrecognized then
    [.unrecognizedStatus outcome.stderrText]
  else []

/-- The action that an outcome calls for. -/
def verdict (outcome : Outcome) (ctx : Context) (file : Option Path) : Except Fault Action :=
  if !outcome.success then .ok (.reject outcome.status ("Black: " ++ outcome.stderrText))
  else if !countsAsChange outcome ctx then .ok .keep
  else
    match ctx.mode with
    | .diff => do
      let text ← renderDiff outcome.stdout ctx.encoding
      .ok (.showDiff (diffLabel file) text)
    | .format => do
      let text ← decodeBytes outcome.stdout ctx.encoding
      .ok (.replace text)

end BufferFormat
