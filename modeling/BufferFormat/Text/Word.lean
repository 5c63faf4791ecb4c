import BufferFormat.Text.Word.Ranges

/-!
# Word characters

Membership in an ascending list of code point ranges, and the class of word characters it gives.

## Main definitions

* `inRanges`: Membership, which stops at the first range above the code point.
* `isWord`: The word characters.
-/

namespace BufferFormat

namespace Text

/-- Whether `n` lies in one of the ranges, which ascend. -/
def inRanges (n : Nat) : List (Nat × Nat) → Bool
  | [] => false
  | (low, high) :: rest => low ≤ n && (n ≤ high || inRanges n rest)

/-- The characters that may stand in a word. -/
def isWord (c : Char) : Bool :=
  inRanges c.toNat wordRanges

end Text

end BufferFormat
