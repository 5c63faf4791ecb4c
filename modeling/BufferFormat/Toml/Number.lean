import BufferFormat.Toml.Scan

/-!
# Numbers

An integer is exact and must fit in 64 bits with a sign. A float must not be too large for a double
of positive sign: one that rounds to infinity is refused, while its negative is let through.

## Main definitions

* `Toml.digits?`: Digits with single underscores between them.
* `Toml.integer?`: An integer in any of the four bases.
* `Toml.float?`: A float, as it is written.
-/

namespace BufferFormat

namespace Toml

/-- A decimal digit. -/
def isDigit (c : Char) : Bool :=
  '0' ≤ c && c ≤ '9'

/-- The value of a hexadecimal digit. -/
def hexValue? (c : Char) : Option Nat :=
  if isDigit c then some (c.toNat - '0'.toNat)
  else if 'a' ≤ c ∧ c ≤ 'f' then some (c.toNat - 'a'.toNat + 10)
  else if 'A' ≤ c ∧ c ≤ 'F' then some (c.toNat - 'A'.toNat + 10)
  else none

/-- The value of a digit below a base, which is at most sixteen. -/
def digitValue? (base : Nat) (c : Char) : Option Nat :=
  (hexValue? c).filter (· < base)

/-- Digits, each with at most one underscore before it; `read` holds the values of those that were
    read, in reverse order. -/
def digitsFrom (base : Nat) (read : List Nat) : List Char → List Nat × List Char
  | [] => (read.reverse, [])
  | [c] =>
    match digitValue? base c with
    | some d => ((d :: read).reverse, [])
    | none => (read.reverse, [c])
  | c :: c' :: rest =>
    match digitValue? base c with
    | some d => digitsFrom base (d :: read) (c' :: rest)
    | none =>
      match digitValue? base c' with
      | some d =>
        if c == '_' then digitsFrom base (d :: read) rest else (read.reverse, c :: c' :: rest)
      | none => (read.reverse, c :: c' :: rest)

/-- One digit or more, with single underscores between them. -/
def digits? (base : Nat) : Reader (List Nat)
  | c :: rest => (digitValue? base c).map fun d => digitsFrom base [d] rest
  | [] => none

/-- The number that digits write. -/
def ofDigits (base : Nat) (digits : List Nat) : Nat :=
  digits.foldl (fun n d => n * base + d) 0

/-- Whether a minus stands first; either sign is dropped. -/
def sign : List Char → Bool × List Char
  | '+' :: rest => (false, rest)
  | '-' :: rest => (true, rest)
  | cs => (false, cs)

/-- A sign and the digits of a decimal number, of which only zero itself begins with a zero. -/
def decimal? (cs : List Char) : Option ((Bool × List Nat) × List Char) :=
  let (negative, cs) := sign cs
  match cs with
  | '0' :: rest => some ((negative, [0]), rest)
  | cs => (digits? 10 cs).map fun (digits, rest) => ((negative, digits), rest)

/-- Whether an integer fits in 64 bits with a sign. -/
def fits (i : Int) : Bool :=
  Int64.minValue.toInt ≤ i && i ≤ Int64.maxValue.toInt

/-- A number without a sign in a base, read after the mark of the base. -/
def based? (base : Nat) (cs : List Char) : Option (Int × List Char) :=
  (digits? base cs).map fun (digits, rest) => (ofDigits base digits, rest)

/-- The digits of an integer, in any base. -/
def unbounded? : Reader Int
  | '0' :: 'x' :: rest => based? 16 rest
  | '0' :: 'o' :: rest => based? 8 rest
  | '0' :: 'b' :: rest => based? 2 rest
  | cs =>
    (decimal? cs).map fun ((negative, digits), rest) =>
      (if negative then -Int.ofNat (ofDigits 10 digits) else ofDigits 10 digits, rest)

/-- An integer. -/
def integer? (cs : List Char) : Option (Int × List Char) :=
  (unbounded? cs).filter fun (i, _) => fits i

/-- A point and the digits after it. -/
def fraction? : Reader (List Nat)
  | '.' :: rest => digits? 10 rest
  | _ => none

/-- The mark of an exponent, its sign and its digits, which may begin with a zero. -/
def exponent? : Reader Int
  | c :: rest =>
    if c == 'e' || c == 'E' then
      let (negative, rest) := sign rest
      (digits? 10 rest).map fun (digits, rest) =>
        (if negative then -Int.ofNat (ofDigits 10 digits) else ofDigits 10 digits, rest)
    else none
  | [] => none

/-- The least number that rounds to infinity as a double: it lies halfway between the largest
    double and the power of two after it. -/
def leastInfinite : Nat :=
  (Nat.pow 2 54 - 1) * Nat.pow 2 970

/-- Whether `digits` before ten to the `exponent` round to infinity as a double. The number of
    digits decides far from the limit, so no large power is computed. -/
def overflows (digits : List Nat) (exponent : Int) : Bool :=
  let digits := digits.dropWhile (· == 0)
  let size := digits.length + exponent
  if digits.isEmpty || size < 300 then false
  else if 400 < size then true
  else
    leastInfinite * Nat.pow 10 (-exponent).toNat ≤
      ofDigits 10 digits * Nat.pow 10 exponent.toNat

/-- What a text begins with, up to a rest of it. -/
def upTo (cs rest : List Char) : String :=
  String.ofList (cs.take (cs.length - rest.length))

/-- A float with a fraction or an exponent. -/
def finite? (cs : List Char) : Option (String × List Char) := do
  let ((negative, whole), rest) ← decimal? cs
  let (fraction, exponent, rest) ←
    match fraction? rest with
    | some (fraction, rest) =>
      match exponent? rest with
      | some (e, rest) => some (fraction, e, rest)
      | none => some (fraction, 0, rest)
    | none => (exponent? rest).map fun (e, rest) => ([], e, rest)
  if !negative && overflows (whole ++ fraction) (exponent - fraction.length) then none
  else some (upTo cs rest, rest)

/-- Infinity or not a number, with or without a sign. -/
def special? (cs : List Char) : Option (String × List Char) :=
  match (sign cs).2 with
  | 'i' :: 'n' :: 'f' :: rest => some (upTo cs rest, rest)
  | 'n' :: 'a' :: 'n' :: rest => some (upTo cs rest, rest)
  | _ => none

/-- A float, as it is written. -/
def float? (cs : List Char) : Option (String × List Char) :=
  finite? cs <|> special? cs

end Toml

end BufferFormat
