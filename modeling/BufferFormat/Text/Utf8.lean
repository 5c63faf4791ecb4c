import BufferFormat.Transducer

/-!
# UTF-8

The two readings of a byte string as UTF-8 share one machine. The strict reading refuses the first
byte that no well-formed text can continue with. The lossy reading writes U+FFFD instead, once for
every longest beginning of a character that the bytes break off, and looks at the breaking byte
afresh.

## Main definitions

* `Utf8.Progress`: Where a reader stands inside a character.
* `Utf8.advance`: What one more byte means.
* `Utf8.encoder`, `Utf8.decoder`: The strict codec.
* `Utf8.lossy`: The reading that never fails.
-/

namespace BufferFormat

namespace Utf8

/-- Where a reader of UTF-8 stands. Inside a character, `point` holds the bits read so far,
    `owed` counts the bytes to come after the next one, and the next one must lie between `low`
    and `high`. -/
inductive Progress where
  | start
  | inside (point owed low high : Nat)
  deriving DecidableEq, Repr

/-- What a byte means to a reader. -/
inductive Reading where
  /-- The byte belongs to a character that is not complete. -/
  | more (p : Progress)
  /-- The byte completes a character. -/
  | char (c : Char)
  /-- No well-formed text has this byte here. -/
  | broken
  deriving DecidableEq, Repr

/-- The first byte of a character. The bounds on the second byte keep out overlong forms,
    surrogates and values above U+10FFFF. -/
def first (b : Nat) : Reading :=
  if b < 0x80 then .char (Char.ofNat b)
  else if b < 0xC2 then .broken
  else if b < 0xE0 then .more (.inside (b - 0xC0) 0 0x80 0xBF)
  else if b == 0xE0 then .more (.inside 0 1 0xA0 0xBF)
  else if b == 0xED then .more (.inside 0xD 1 0x80 0x9F)
  else if b < 0xF0 then .more (.inside (b - 0xE0) 1 0x80 0xBF)
  else if b == 0xF0 then .more (.inside 0 2 0x90 0xBF)
  else if b < 0xF4 then .more (.inside (b - 0xF0) 2 0x80 0xBF)
  else if b == 0xF4 then .more (.inside 4 2 0x80 0x8F)
  else .broken

/-- What byte `b` means to a reader that stands at `p`. -/
def advance (p : Progress) (b : Nat) : Reading :=
  match p with
  | .start => first b
  | .inside point owed low high =>
    if low ≤ b ∧ b ≤ high then
      match owed with
      | 0 => .char (Char.ofNat (point * 64 + (b - 0x80)))
      | owed + 1 => .more (.inside (point * 64 + (b - 0x80)) owed 0x80 0xBF)
    else .broken

/-- Strict reading: a broken sequence and a character cut off by the end are refused. -/
def decoder : Transducer UInt8 Char where
  State := Progress
  start := .start
  step p b :=
    match advance p b.toNat with
    | .more p' => some (p', [])
    | .char c => some (.start, [c])
    | .broken => none
  finish
    | .start => some []
    | .inside .. => none

/-- Every character has an encoding. -/
def encoder : Transducer Char UInt8 :=
  .stateless fun c => some (String.utf8EncodeChar c)

/-- The bytes of a text. -/
def encode (cs : List Char) : List UInt8 :=
  cs.flatMap String.utf8EncodeChar

/-- The text of well-formed bytes. -/
def decode? (bs : List UInt8) : Option (List Char) :=
  decoder.run bs

/-- The character written in place of a broken sequence. -/
def replacement : Char := Char.ofNat 0xFFFD

/-- One byte read lossily: the state after it and the output in reverse order, put before
    `written`. A byte that breaks a character off is read again as the start of the next one. -/
def lossyStep (p : Progress) (b : Nat) (written : List Char) : Progress × List Char :=
  match advance p b with
  | .more p' => (p', written)
  | .char c => (.start, c :: written)
  | .broken =>
    match p with
    | .start => (.start, replacement :: written)
    | .inside .. =>
      match first b with
      | .more p' => (p', replacement :: written)
      | .char c => (.start, c :: replacement :: written)
      | .broken => (.start, replacement :: replacement :: written)

/-- Lossy reading from a state, after the output `written` in reverse order. -/
def lossyFrom : Progress → List Char → List UInt8 → List Char
  | .start, written, [] => written.reverse
  | .inside .., written, [] => (replacement :: written).reverse
  | p, written, b :: rest =>
    lossyFrom (lossyStep p b.toNat written).1 (lossyStep p b.toNat written).2 rest

/-- The text of any bytes, with U+FFFD for what is broken. -/
def lossy (bs : List UInt8) : List Char :=
  lossyFrom .start [] bs

end Utf8

end BufferFormat
