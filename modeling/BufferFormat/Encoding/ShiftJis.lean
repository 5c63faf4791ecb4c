import BufferFormat.Transducer
import BufferFormat.Encoding.Index.Jis0208

/-!
# Shift_JIS

One byte for ASCII and for half-width katakana, two bytes for everything else. Writing is not the
inverse of reading: the yen sign and the overline are written as the ASCII bytes in whose place
they stand on Japanese keyboards, and the minus sign as its full-width form.

## Main definitions

* `Jis.halfKatakana`: The half-width katakana block.
* `Jis.fold`: The characters that Japanese encodings write as others.
* `ShiftJis.decoder`, `ShiftJis.encoder`: The codec.
-/

namespace BufferFormat

namespace Jis

/-- The half-width katakana, U+FF61 to U+FF9F. -/
def halfKatakana (c : Char) : Bool :=
  0xFF61 ≤ c.toNat && c.toNat ≤ 0xFF9F

/-- The yen sign. -/
def yen : Char := Char.ofNat 0xA5

/-- The overline. -/
def overline : Char := Char.ofNat 0x203E

/-- The index holds the full-width minus but not the mathematical one, which is written as it. -/
def fold (c : Char) : Char :=
  if c.toNat == 0x2212 then Char.ofNat 0xFF0D else c

end Jis

namespace ShiftJis

/-- Bytes that start a two-byte character. -/
def isLead (b : Nat) : Bool :=
  (0x81 ≤ b && b ≤ 0x9F) || (0xE0 ≤ b && b ≤ 0xFC)

/-- Bytes that end a two-byte character. -/
def isTrail (b : Nat) : Bool :=
  (0x40 ≤ b && b ≤ 0x7E) || (0x80 ≤ b && b ≤ 0xFC)

/-- The pointer of a lead and a trail byte. -/
def pointerOf (lead trail : Nat) : Nat :=
  (lead - if lead < 0xA0 then 0x81 else 0xC1) * 188 + (trail - if trail < 0x7F then 0x40 else 0x41)

/-- The two bytes of a pointer. -/
def bytesOf (p : Nat) : List UInt8 :=
  [UInt8.ofNat (p / 188 + if p / 188 < 0x1F then 0x81 else 0xC1),
    UInt8.ofNat (p % 188 + if p % 188 < 0x3F then 0x40 else 0x41)]

/-- The character at a pointer; a block of pointers stands for the start of the private use
    area. -/
def charAt? (p : Nat) : Option Char :=
  if 8836 ≤ p ∧ p ≤ 10715 then some (Char.ofNat (0xE000 + (p - 8836))) else Index.jis0208.charAt? p

/-- The pointer under which a character is written. The vendor rows from 8272 to 8835 repeat
    characters of later rows and are only read. -/
def pointer? (c : Char) : Option Nat :=
  (Index.jis0208.filterMap (Run.pointer? c)).find? fun p => p < 8272 || 8835 < p

/-- Reading Shift_JIS; the state is the lead byte that waits for its trail byte. -/
def decoder : Transducer UInt8 Char where
  State := Option Nat
  start := none
  step
    | none, b =>
      let b := b.toNat
      if b ≤ 0x80 then some (none, [Char.ofNat b])
      else if 0xA1 ≤ b ∧ b ≤ 0xDF then some (none, [Char.ofNat (0xFF61 + (b - 0xA1))])
      else if isLead b then some (some b, [])
      else none
    | some lead, b =>
      if isTrail b.toNat then (charAt? (pointerOf lead b.toNat)).map fun c => (none, [c]) else none
  finish q := if q.isNone then some [] else none

/-- Writing Shift_JIS. -/
def encoder : Transducer Char UInt8 :=
  .stateless fun c =>
    if c.toNat ≤ 0x80 then some [UInt8.ofNat c.toNat]
    else if c == Jis.yen then some [0x5C]
    else if c == Jis.overline then some [0x7E]
    else if Jis.halfKatakana c then some [UInt8.ofNat (0xA1 + (c.toNat - 0xFF61))]
    else (pointer? (Jis.fold c)).map bytesOf

end ShiftJis

end BufferFormat
