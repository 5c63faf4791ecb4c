import BufferFormat.Transducer

/-!
# UTF-16

Characters outside the basic plane are written as a high and a low surrogate; each unit is two
bytes in one of two orders. The decoder refuses a surrogate without its partner and an odd byte at
the end, and gives a leading U+FEFF no special meaning.

## Main definitions

* `Utf16.ByteOrder`: Which half of a unit comes first.
* `Utf16.units`: The one or two units of a character.
* `Utf16.encoder`, `Utf16.decoder`: The codec for a byte order.
-/

namespace BufferFormat

namespace Utf16

/-- Which half of a unit comes first. -/
inductive ByteOrder where
  | little
  | big
  deriving DecidableEq, Repr

/-- The bytes of a unit. -/
def ByteOrder.bytes (o : ByteOrder) (unit : Nat) : List UInt8 :=
  match o with
  | .little => [UInt8.ofNat (unit % 256), UInt8.ofNat (unit / 256)]
  | .big => [UInt8.ofNat (unit / 256), UInt8.ofNat (unit % 256)]

/-- The unit that two bytes, in the order read, stand for. -/
def ByteOrder.unit (o : ByteOrder) (b₁ b₂ : Nat) : Nat :=
  match o with
  | .little => b₂ * 256 + b₁
  | .big => b₁ * 256 + b₂

/-- The units of a character. -/
def units (c : Char) : List Nat :=
  if c.toNat < 0x10000 then [c.toNat]
  else [0xD800 + (c.toNat - 0x10000) / 0x400, 0xDC00 + (c.toNat - 0x10000) % 0x400]

/-- Where a reader stands: after how much of a unit, and after which high surrogate. -/
structure Progress where
  /-- The high surrogate that waits for its partner. -/
  high : Option Nat
  /-- The first byte of a unit. -/
  byte : Option Nat
  deriving DecidableEq, Repr

/-- A whole unit, read after `high`: the state and the output, or `none` for an unpaired
    surrogate. -/
def takeUnit (high : Option Nat) (u : Nat) : Option (Progress × List Char) :=
  match high with
  | none =>
    if 0xD800 ≤ u ∧ u < 0xDC00 then some (⟨some u, none⟩, [])
    else if 0xDC00 ≤ u ∧ u < 0xE000 then none
    else some (⟨none, none⟩, [Char.ofNat u])
  | some h =>
    if 0xDC00 ≤ u ∧ u < 0xE000 then
      some (⟨none, none⟩, [Char.ofNat (0x10000 + (h - 0xD800) * 0x400 + (u - 0xDC00))])
    else none

/-- Reading UTF-16 of one byte order. -/
def decoder (o : ByteOrder) : Transducer UInt8 Char where
  State := Progress
  start := ⟨none, none⟩
  step p b :=
    match p.byte with
    | none => some (⟨p.high, some b.toNat⟩, [])
    | some b₁ => takeUnit p.high (o.unit b₁ b.toNat)
  finish p := if p.high.isNone && p.byte.isNone then some [] else none

/-- Writing UTF-16 of one byte order, without a byte order mark. -/
def encoder (o : ByteOrder) : Transducer Char UInt8 :=
  .stateless fun c => some ((units c).flatMap o.bytes)

end Utf16

end BufferFormat
