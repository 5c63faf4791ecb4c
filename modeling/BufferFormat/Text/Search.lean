/-!
# Searching for a block

Whether one list occurs inside another as a contiguous block. The same search serves text and
bytes, so facts about it hold for both.

## Main definitions

* `occursIn`: Does the first list occur in the second?
* `stripPrefix?`: What follows a given beginning.
-/

namespace BufferFormat

namespace Text

variable {α : Type} [BEq α]

/-- What follows `pre` in a list that begins with it. -/
def stripPrefix? : List α → List α → Option (List α)
  | [], rest => some rest
  | _ :: _, [] => none
  | p :: pre, c :: rest => if p == c then stripPrefix? pre rest else none

/-- Whether `needle` occurs as a contiguous block. The empty block occurs everywhere. -/
def occursIn (needle : List α) : List α → Bool
  | [] => needle.isEmpty
  | c :: rest => (stripPrefix? needle (c :: rest)).isSome || occursIn needle rest

end Text

end BufferFormat
