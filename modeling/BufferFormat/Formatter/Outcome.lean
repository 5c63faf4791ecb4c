import BufferFormat.Config
import BufferFormat.Text.Search

/-!
# Outcomes

What one run of the formatter produced. The formatter tells only in the free text of its messages
whether it changed anything; that reading is here.

## Main definitions

* `Outcome`: Exit status and the two output streams.
* `Outcome.stderrText`: The messages as text.
* `classify`: What the messages of a successful run say.
-/

namespace BufferFormat

/-- The status of a formatter that a signal ended. -/
def signalledStatus : Int := -1

/-- What one run of the formatter produced. -/
structure Outcome where
  status : Int
  stdout : List UInt8
  stderr : List UInt8
  deriving DecidableEq, Repr

namespace Outcome

/-- Whether the formatter accepted its input. -/
def success (o : Outcome) : Bool :=
  o.status == 0

/-- The formatter's messages without surrounding blanks. -/
def stderrText (o : Outcome) : String :=
  String.ofList (Text.trimChars (Utf8.lossy o.stderr))

end Outcome

/-- How the messages of a successful run read. -/
inductive Classification where
  | reformatted
  | unchanged
  /-- Neither marker was found. -/
  | unrecognized
  deriving DecidableEq, Repr

/-- How a text reads. With both markers in it, it reads as unchanged. -/
def classifyText (text : List Char) (markers : Markers) : Classification :=
  if Text.occursIn markers.unchanged.toList text then .unchanged
  else if Text.occursIn markers.reformatted.toList text then .reformatted
  else .unrecognized

/-- How the messages on a formatter's standard error read. -/
def classify (stderr : List UInt8) (markers : Markers) : Classification :=
  classifyText (Utf8.lossy stderr) markers

end BufferFormat
