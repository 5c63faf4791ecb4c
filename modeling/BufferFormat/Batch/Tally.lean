import BufferFormat.Verdict

/-!
# The tally of a batch

How the runs of a batch ended. A formatter that cannot be found is reported once, as every other
file would fail in the same way.

## Main definitions

* `Tally`: The counts.
* `Tally.record`: Adding the end of a run, with what there is to say about it.
* `Tally.exitStatus`: What the batch as a whole came to.
* `Tally.summary`: The counts as a line.
-/

namespace BufferFormat

/-- How the runs of a batch ended. -/
structure Tally where
  reformatted : Nat := 0
  unchanged : Nat := 0
  failed : Nat := 0
  /-- Whether a run could not find the formatter. -/
  toolUnavailable : Bool := false
  deriving DecidableEq, Repr

namespace Tally

/-- Add the end of a run. -/
def count (t : Tally) : Except Fault Applied → Tally
  | .ok .reformatted | .ok .diffShown => { t with reformatted := t.reformatted + 1 }
  | .ok .unchanged => { t with unchanged := t.unchanged + 1 }
  | .ok (.rejected _) => { t with failed := t.failed + 1 }
  | .error fault =>
    { t with
      failed := t.failed + 1
      toolUnavailable := t.toolUnavailable || fault.isToolUnavailable }

/-- What there is to say about the end of a run. -/
def report (t : Tally) (silent : Bool) (name : String) : Except Fault Applied → String
  | .ok _ => ""
  | .error fault =>
    if fault.isToolUnavailable then
      if t.toolUnavailable then "" else "Error: " ++ fault.message ++ "\n"
    else if silent then ""
    else "Error formatting " ++ name ++ ": " ++ fault.message ++ "\n"

/-- What a batch as a whole came to: two if the formatter could not be found, one if a run failed
    otherwise. -/
def exitStatus (t : Tally) : Nat :=
  if t.toolUnavailable then 2 else if 0 < t.failed then 1 else 0

/-- The counts as a line. -/
def summary (t : Tally) : String :=
  toString t.reformatted ++ " reformatted, " ++ toString t.unchanged ++ " unchanged, " ++
    toString t.failed ++ " failed.\n"

end Tally

end BufferFormat
