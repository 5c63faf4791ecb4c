import BufferFormat.Transducer
import BufferFormat.Encoding.Index.Gb18030
import BufferFormat.Encoding.Index.Gb18030Ranges

/-!
# GB 18030 and GBK

Both are read alike: one byte, two bytes by the index, or four bytes by the ranges. GBK writes
only the two-byte part and has a byte of its own for the euro sign.

## Main definitions

* `Gb18030.rangeChar?`, `Gb18030.rangePointer`: Four-byte numbering of code points.
* `Gb18030.decoder`: Reading either encoding.
* `Gb18030.encoder`, `Gbk.encoder`: Writing each.
-/

namespace BufferFormat

namespace Gb18030

/-- The code point that the last range starting at or before pointer `p` gives. -/
def inLastRange (p : Nat) : List (Nat × Nat) → Nat → Nat
  | [], found => found
  | (first, point) :: rest, found =>
    if first ≤ p then inLastRange p rest (point + (p - first)) else found

/-- The pointer that the last range starting at or before code point `n` gives. -/
def pointerInLastRange (n : Nat) : List (Nat × Nat) → Nat → Nat
  | [], found => found
  | (first, point) :: rest, found =>
    if point ≤ n then pointerInLastRange n rest (first + (n - point)) else found

/-- The character of a four-byte pointer. Pointer 7457 belongs to U+E7C7, whose two-byte code was
    given to another character. -/
def rangeChar? (p : Nat) : Option Char :=
  if (39419 < p ∧ p < 189000) ∨ 1237575 < p then none
  else if p == 7457 then some (Char.ofNat 0xE7C7)
  else some (Char.ofNat (inLastRange p gb18030Ranges 0))

/-- The four-byte pointer of a character without a two-byte code. -/
def rangePointer (c : Char) : Nat :=
  if c.toNat == 0xE7C7 then 7457 else pointerInLastRange c.toNat gb18030Ranges 0

/-- Where a reader stands: the bytes of the character read so far. -/
inductive Progress where
  | start
  | one (b₁ : Nat)
  | two (b₁ b₂ : Nat)
  | three (b₁ b₂ b₃ : Nat)
  deriving DecidableEq, Repr

/-- Bytes that start a character of more than one byte, and third bytes. -/
def isLead (b : Nat) : Bool :=
  0x81 ≤ b && b ≤ 0xFE

/-- Second and fourth bytes of a four-byte character. -/
def isDigit (b : Nat) : Bool :=
  0x30 ≤ b && b ≤ 0x39

/-- Second bytes of a two-byte character. -/
def isTrail (b : Nat) : Bool :=
  (0x40 ≤ b && b ≤ 0x7E) || (0x80 ≤ b && b ≤ 0xFE)

/-- Reading GB 18030, and GBK with it. -/
def decoder : Transducer UInt8 Char where
  State := Progress
  start := .start
  step q b :=
    let b := b.toNat
    match q with
    | .start =>
      if b < 0x80 then some (.start, [Char.ofNat b])
      else if b == 0x80 then some (.start, [Char.ofNat 0x20AC])
      else if isLead b then some (.one b, [])
      else none
    | .one b₁ =>
      if isDigit b then some (.two b₁ b, [])
      else if isTrail b then
        (Index.gb18030.charAt? ((b₁ - 0x81) * 190 + (b - if b < 0x7F then 0x40 else 0x41))).map
          fun c => (.start, [c])
      else none
    | .two b₁ b₂ => if isLead b then some (.three b₁ b₂ b, []) else none
    | .three b₁ b₂ b₃ =>
      if isDigit b then
        (rangeChar? ((b₁ - 0x81) * 12600 + (b₂ - 0x30) * 1260 + (b₃ - 0x81) * 10 + (b - 0x30))).map
          fun c => (.start, [c])
      else none
  finish q := if q = .start then some [] else none

/-- The two bytes of a pointer. -/
def bytesOf (p : Nat) : List UInt8 :=
  [UInt8.ofNat (p / 190 + 0x81), UInt8.ofNat (p % 190 + if p % 190 < 0x3F then 0x40 else 0x41)]

/-- The four bytes of a range pointer. -/
def fourBytesOf (p : Nat) : List UInt8 :=
  [UInt8.ofNat (p / 12600 + 0x81), UInt8.ofNat (p / 1260 % 10 + 0x30),
    UInt8.ofNat (p / 10 % 126 + 0x81), UInt8.ofNat (p % 10 + 0x30)]

/-- Private use characters whose two-byte codes were given to other characters and are still
    written with those codes. -/
def formerCodes : List (Nat × List UInt8) := [
  (0xE78D, [0xA6, 0xD9]), (0xE78E, [0xA6, 0xDA]), (0xE78F, [0xA6, 0xDB]), (0xE790, [0xA6, 0xDC]),
  (0xE791, [0xA6, 0xDD]), (0xE792, [0xA6, 0xDE]), (0xE793, [0xA6, 0xDF]), (0xE794, [0xA6, 0xEC]),
  (0xE795, [0xA6, 0xED]), (0xE796, [0xA6, 0xF3]), (0xE81E, [0xFE, 0x59]), (0xE826, [0xFE, 0x61]),
  (0xE82B, [0xFE, 0x66]), (0xE82C, [0xFE, 0x67]), (0xE832, [0xFE, 0x6D]), (0xE843, [0xFE, 0x7E]),
  (0xE854, [0xFE, 0x90]), (0xE864, [0xFE, 0xA0])]

/-- Writing GB 18030. Only U+E5E5 has no code: its place holds the ideographic space. -/
def encoder : Transducer Char UInt8 :=
  .stateless fun c =>
    if c.toNat < 0x80 then some [UInt8.ofNat c.toNat]
    else if c.toNat == 0xE5E5 then none
    else
      match formerCodes.lookup c.toNat with
      | some bytes => some bytes
      | none =>
        match Index.gb18030.pointer? c with
        | some p => some (bytesOf p)
        | none => some (fourBytesOf (rangePointer c))

end Gb18030

namespace Gbk

/-- Writing GBK, which has no four-byte codes. -/
def encoder : Transducer Char UInt8 :=
  .stateless fun c =>
    if c.toNat < 0x80 then some [UInt8.ofNat c.toNat]
    else if c.toNat == 0xE5E5 then none
    else if c.toNat == 0x20AC then some [0x80]
    else
      match Gb18030.formerCodes.lookup c.toNat with
      | some bytes => some bytes
      | none => (Index.gb18030.pointer? c).map Gb18030.bytesOf

end Gbk

end BufferFormat
