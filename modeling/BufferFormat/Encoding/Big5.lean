import BufferFormat.Transducer
import BufferFormat.Encoding.Index.Big5

/-!
# Big5

ASCII in one byte, everything else in two. Four codes stand for a letter and a combining mark.

## Main definitions

* `Big5.decoder`, `Big5.encoder`: The codec.
-/

namespace BufferFormat

namespace Big5

/-- The codes that stand for two characters. -/
def pairs : List (Nat × List Nat) :=
  [(1133, [0xCA, 0x304]), (1135, [0xCA, 0x30C]), (1164, [0xEA, 0x304]), (1166, [0xEA, 0x30C])]

/-- The characters at a pointer. -/
def charsAt? (p : Nat) : Option (List Char) :=
  match pairs.lookup p with
  | some points => some (points.map Char.ofNat)
  | none => (Index.big5.charAt? p).map ([·])

/-- Reading Big5; the state is the lead byte that waits for its trail byte. -/
def decoder : Transducer UInt8 Char where
  State := Option Nat
  start := none
  step
    | none, b =>
      let b := b.toNat
      if b < 0x80 then some (none, [Char.ofNat b])
      else if 0x81 ≤ b ∧ b ≤ 0xFE then some (some b, [])
      else none
    | some lead, b =>
      let b := b.toNat
      if (0x40 ≤ b ∧ b ≤ 0x7E) ∨ (0xA1 ≤ b ∧ b ≤ 0xFE) then
        (charsAt? ((lead - 0x81) * 157 + (b - if b < 0x7F then 0x40 else 0x62))).map
          fun cs => (none, cs)
      else none
  finish q := if q.isNone then some [] else none

/-- Characters of which the last code is written. All others are written by the first code that
    is no supplementary one. -/
def writtenLast : List Nat := [0x2550, 0x255E, 0x2561, 0x256A, 0x5341, 0x5345]

/-- The pointer under which a character is written. Pointers of the Hong Kong rows before 0xA1 are
    only read. -/
def pointer? (c : Char) : Option Nat :=
  let pointers := (Index.big5.filterMap (Run.pointer? c)).filter fun p => (0xA1 - 0x81) * 157 ≤ p
  if writtenLast.contains c.toNat then pointers.getLast? else pointers.head?

/-- Writing Big5. -/
def encoder : Transducer Char UInt8 :=
  .stateless fun c =>
    if c.toNat < 0x80 then some [UInt8.ofNat c.toNat]
    else (pointer? c).map fun p =>
      [UInt8.ofNat (p / 157 + 0x81), UInt8.ofNat (p % 157 + if p % 157 < 0x3F then 0x40 else 0x62)]

end Big5

end BufferFormat
