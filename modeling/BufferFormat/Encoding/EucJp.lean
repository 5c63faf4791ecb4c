import BufferFormat.Encoding.ShiftJis
import BufferFormat.Encoding.Index.Jis0212

/-!
# EUC-JP

ASCII in one byte, half-width katakana behind 0x8E, the main index in two high bytes and the
supplementary index in two high bytes behind 0x8F. The supplementary index is only read.

## Main definitions

* `EucJp.Progress`: Where a reader stands inside a character.
* `EucJp.decoder`, `EucJp.encoder`: The codec.
-/

namespace BufferFormat

namespace EucJp

/-- Where a reader stands. -/
inductive Progress where
  | start
  /-- After a first byte of the main index, or 0x8E or 0x8F. -/
  | lead (b : Nat)
  /-- After 0x8F and a first byte of the supplementary index. -/
  | supplement (b : Nat)
  deriving DecidableEq, Repr

/-- The bytes of the two indexes. -/
def isHigh (b : Nat) : Bool :=
  0xA1 ≤ b && b ≤ 0xFE

/-- The pointer of two high bytes. -/
def pointerOf (lead trail : Nat) : Nat :=
  (lead - 0xA1) * 94 + (trail - 0xA1)

/-- Reading EUC-JP. -/
def decoder : Transducer UInt8 Char where
  State := Progress
  start := .start
  step
    | .start, b =>
      let b := b.toNat
      if b < 0x80 then some (.start, [Char.ofNat b])
      else if b == 0x8E || b == 0x8F || isHigh b then some (.lead b, [])
      else none
    | .lead lead, b =>
      let b := b.toNat
      if lead == 0x8E && 0xA1 ≤ b && b ≤ 0xDF then
        some (.start, [Char.ofNat (0xFF61 + (b - 0xA1))])
      else if lead == 0x8F && isHigh b then some (.supplement b, [])
      else if isHigh lead && isHigh b then
        (Index.jis0208.charAt? (pointerOf lead b)).map fun c => (.start, [c])
      else none
    | .supplement lead, b =>
      if isHigh b.toNat then
        (Index.jis0212.charAt? (pointerOf lead b.toNat)).map fun c => (.start, [c])
      else none
  finish
    | .start => some []
    | _ => none

/-- Writing EUC-JP. -/
def encoder : Transducer Char UInt8 :=
  .stateless fun c =>
    if c.toNat < 0x80 then some [UInt8.ofNat c.toNat]
    else if c == Jis.yen then some [0x5C]
    else if c == Jis.overline then some [0x7E]
    else if Jis.halfKatakana c then some [0x8E, UInt8.ofNat (0xA1 + (c.toNat - 0xFF61))]
    else (Index.jis0208.pointer? (Jis.fold c)).map fun p =>
      [UInt8.ofNat (p / 94 + 0xA1), UInt8.ofNat (p % 94 + 0xA1)]

end EucJp

end BufferFormat
