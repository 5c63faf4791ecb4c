import BufferFormat.Transducer
import BufferFormat.Encoding.CodePage.Upper

/-!
# Single-byte encodings

The lower half of every code page is ASCII; the upper half is its table.

## Main definitions

* `CodePage.charOf?`, `CodePage.byteOf?`: One byte to one character and back.
* `CodePage.decoder`, `CodePage.encoder`: The codec of a code page.
* `UserDefined.decoder`, `UserDefined.encoder`: The encoding whose upper half is a block of the
  private use area.
-/

namespace BufferFormat

namespace CodePage

/-- The character of a byte, if the byte means anything. -/
def charOf? (page : CodePage) (b : UInt8) : Option Char :=
  if b.toNat < 0x80 then some (Char.ofNat b.toNat)
  else
    match page.upper[b.toNat - 0x80]? with
    | none | some 0 => none
    | some point => some (Char.ofNat point)

/-- The byte of a character, if the code page has it. -/
def byteOf? (page : CodePage) (c : Char) : Option UInt8 :=
  if c.toNat < 0x80 then some (UInt8.ofNat c.toNat)
  else (page.upper.idxOf? c.toNat).map fun i => UInt8.ofNat (0x80 + i)

/-- Reading a code page. -/
def decoder (page : CodePage) : Transducer UInt8 Char :=
  .stateless fun b => (page.charOf? b).map ([·])

/-- Writing a code page. -/
def encoder (page : CodePage) : Transducer Char UInt8 :=
  .stateless fun c => (page.byteOf? c).map ([·])

end CodePage

namespace UserDefined

/-- Bytes from 0x80 on stand for U+F780 and the code points after it. -/
def decoder : Transducer UInt8 Char :=
  .stateless fun b =>
    some [Char.ofNat (if b.toNat < 0x80 then b.toNat else 0xF780 + (b.toNat - 0x80))]

/-- Only ASCII and U+F780 to U+F7FF can be written. -/
def encoder : Transducer Char UInt8 :=
  .stateless fun c =>
    if c.toNat < 0x80 then some [UInt8.ofNat c.toNat]
    else if 0xF780 ≤ c.toNat ∧ c.toNat ≤ 0xF7FF then
      some [UInt8.ofNat (0x80 + (c.toNat - 0xF780))]
    else none

end UserDefined

end BufferFormat
