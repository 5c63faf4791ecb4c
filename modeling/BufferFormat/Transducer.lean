/-!
# Transducers

A transducer reads a list item by item, writes a block of output for each and may refuse an item
or the end of the input. Every decoder and every encoder of this library is one: a decoder reads
bytes and writes characters, an encoder the other way round.

Nothing is written when an input is refused, so `run` is a partial function on whole lists.

## Main definitions

* `Transducer`: States, a step and what the end of the input adds.
* `Transducer.run`: The output for a whole input, or `none` when some of it is refused.
* `Transducer.stateless`: A transducer that treats every item alone.
-/

namespace BufferFormat

/-- A machine that turns a list of `α` into a list of `β`. -/
structure Transducer (α β : Type) where
  /-- What the machine remembers between items. -/
  State : Type
  /-- Where it starts. -/
  start : State
  /-- The state after one item and the output for it, or `none` for an item it refuses. -/
  step : State → α → Option (State × List β)
  /-- The output at the end of the input, or `none` where the input must not end. -/
  finish : State → Option (List β)

namespace Transducer

variable {α β : Type}

/-- Read the rest of an input. `written` holds the output so far, last item first, so that a long
    input needs no deep recursion. -/
def runFrom (t : Transducer α β) : t.State → List β → List α → Option (List β)
  | q, written, [] => (t.finish q).map fun out => (out.reverseAux written).reverse
  | q, written, a :: rest =>
    match t.step q a with
    | none => none
    | some (q', out) => runFrom t q' (out.reverseAux written) rest

/-- The output for a whole input, or `none` when some of it is refused. -/
def run (t : Transducer α β) (input : List α) : Option (List β) :=
  t.runFrom t.start [] input

/-- A transducer without memory: each item is mapped alone, and the input may end anywhere. -/
def stateless (f : α → Option (List β)) : Transducer α β where
  State := Unit
  start := ()
  step _ a := (f a).map fun out => ((), out)
  finish _ := some []

end Transducer

end BufferFormat
