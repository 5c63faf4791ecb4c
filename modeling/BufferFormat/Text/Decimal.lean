/-!
# Decimal numbers

Natural numbers in decimal digits. Zeros may stand in front, nothing else may stand anywhere.

## Main definitions

* `Text.digit?`: The value of a decimal digit.
* `Text.natural?`: The number that digits write.
-/

namespace BufferFormat

namespace Text

/-- The value of a decimal digit. -/
def digit? (c : Char) : Option Nat :=
  if '0' ≤ c ∧ c ≤ '9' then some (c.toNat - '0'.toNat) else none

/-- The number that digits write after `n`. -/
def naturalFrom? (n : Nat) : List Char → Option Nat
  | [] => some n
  | c :: cs => (digit? c).bind fun d => naturalFrom? (n * 10 + d) cs

/-- The number that digits write. There is at least one digit. -/
def natural? : List Char → Option Nat
  | [] => none
  | cs => naturalFrom? 0 cs

end Text

end BufferFormat
