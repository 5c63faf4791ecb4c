import BufferFormat.Warning
import BufferFormat.World

/-!
# Effects

What a step does besides changing files: the bytes it prints, the warnings it raises and the
processes it starts, each in order.

## Main definitions

* `Effects`: The effects of a step.
* `Effects.andThen`: The effects of two steps, one after the other.
-/

namespace BufferFormat

/-- The effects of a step. -/
structure Effects where
  stdout : List UInt8 := []
  stderr : String := ""
  warnings : List Warning := []
  invocations : List Invocation := []
  deriving DecidableEq, Repr

namespace Effects

/-- No effect. -/
def none : Effects := {}

/-- The effects of one step and then another. -/
def andThen (a b : Effects) : Effects :=
  ⟨a.stdout ++ b.stdout, a.stderr ++ b.stderr, a.warnings ++ b.warnings,
    a.invocations ++ b.invocations⟩

end Effects

end BufferFormat
