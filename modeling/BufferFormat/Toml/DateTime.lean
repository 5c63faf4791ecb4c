import BufferFormat.Toml.Number

/-!
# Dates and times

A date, a time of day, or both. Only a date before it lets a time of day have an offset.

## Main definitions

* `Toml.date?`, `Toml.time?`, `Toml.offset?`: The parts.
* `Toml.datetime?`: A date, a time, or both, as they are written.
-/

namespace BufferFormat

namespace Toml

/-- The number that exactly `n` decimal digits write, after `value`. -/
def fixed? : Nat → Nat → Reader Nat
  | 0, value, rest => some (value, rest)
  | _ + 1, _, [] => none
  | n + 1, value, c :: rest =>
    if isDigit c then fixed? n (value * 10 + (c.toNat - '0'.toNat)) rest else none

/-- A number of two digits between two bounds. -/
def between? (least most : Nat) (cs : List Char) : Option (Nat × List Char) :=
  (fixed? 2 0 cs).filter fun (n, _) => least ≤ n && n ≤ most

/-- A given character. -/
def char? (c : Char) : Reader Unit
  | c' :: rest => if c' == c then some ((), rest) else none
  | [] => none

/-- Whether a year has a 29 February. -/
def isLeap (year : Nat) : Bool :=
  year % 4 == 0 && (year % 100 != 0 || year % 400 == 0)

/-- The number of days in a month. -/
def daysIn (year month : Nat) : Nat :=
  if month == 2 then if isLeap year then 29 else 28
  else if month ∈ [4, 6, 9, 11] then 30
  else 31

/-- A day of a year. -/
def date? (cs : List Char) : Option (Unit × List Char) := do
  let (year, rest) ← fixed? 4 0 cs
  let (_, rest) ← char? '-' rest
  let (month, rest) ← between? 1 12 rest
  let (_, rest) ← char? '-' rest
  let (_, rest) ← between? 1 (daysIn year month) rest
  return ((), rest)

/-- A fraction of a second, if a point with a digit after it begins the text. -/
def skipSecondFraction : List Char → List Char
  | '.' :: c :: rest => if isDigit c then rest.dropWhile isDigit else '.' :: c :: rest
  | cs => cs

/-- A time of day, which may be a leap second. -/
def time? (cs : List Char) : Option (Unit × List Char) := do
  let (_, rest) ← between? 0 23 cs
  let (_, rest) ← char? ':' rest
  let (_, rest) ← between? 0 59 rest
  let (_, rest) ← char? ':' rest
  let (_, rest) ← between? 0 60 rest
  return ((), skipSecondFraction rest)

/-- The distance of a time from universal time. -/
def offset? : Reader Unit
  | c :: rest =>
    if c == 'Z' || c == 'z' then some ((), rest)
    else if c == '+' || c == '-' then do
      let (_, rest) ← between? 0 23 rest
      let (_, rest) ← char? ':' rest
      let (_, rest) ← between? 0 59 rest
      return ((), rest)
    else none
  | [] => none

/-- What follows a time and its offset, if they follow a date. -/
def timeAfterDate? : List Char → Option (List Char)
  | c :: rest =>
    if c == 'T' || c == 't' || c == ' ' then
      (time? rest).map fun (_, rest) => ((offset? rest).map (·.2)).getD rest
    else none
  | [] => none

/-- A date, a time, or both, as they are written. A date is read alone where no time follows. -/
def datetime? (cs : List Char) : Option (String × List Char) :=
  match date? cs with
  | some (_, rest) =>
    let rest := (timeAfterDate? rest).getD rest
    some (upTo cs rest, rest)
  | none => (time? cs).map fun (_, rest) => (upTo cs rest, rest)

end Toml

end BufferFormat
