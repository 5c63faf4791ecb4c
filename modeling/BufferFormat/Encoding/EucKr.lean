import BufferFormat.Transducer
import BufferFormat.Encoding.Index.EucKr

/-!
# EUC-KR

ASCII in one byte and everything else in two, extended by the syllables that the national standard
left out.

## Main definitions

* `EucKr.decoder`, `EucKr.encoder`: The codec.
-/

namespace BufferFormat

namespace EucKr

/-- Reading EUC-KR; the state is the lead byte that waits for its trail byte. -/
def decoder : Transducer UInt8 Char where
  State := Option Nat
  start := none
  step
    | none, b =>
      let b := b.toNat
      if b < 0x80 then some (none, [Char.ofNat b])
      else if 0x81 ≤ b ∧ b ≤ 0xFE then some (some b, [])
      else none
    | some lead, b =>
      let b := b.toNat
      if 0x41 ≤ b ∧ b ≤ 0xFE then
        (Index.eucKr.charAt? ((lead - 0x81) * 190 + (b - 0x41))).map fun c => (none, [c])
      else none
  finish q := if q.isNone then some [] else none

/-- Writing EUC-KR. -/
def encoder : Transducer Char UInt8 :=
  .stateless fun c =>
    if c.toNat < 0x80 then some [UInt8.ofNat c.toNat]
    else (Index.eucKr.pointer? c).map fun p =>
      [UInt8.ofNat (p / 190 + 0x81), UInt8.ofNat (p % 190 + 0x41)]

end EucKr

end BufferFormat
