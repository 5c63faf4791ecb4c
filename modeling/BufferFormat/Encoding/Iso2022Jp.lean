import BufferFormat.Encoding.ShiftJis

/-!
# ISO-2022-JP

Seven-bit text in which escape sequences choose the character set of what follows. Two escape
sequences with nothing between them are refused, so that no text hides from a byte-wise filter.
Half-width katakana can be read but are written as full-width ones.

## Main definitions

* `Iso2022Jp.CharSet`: The sets that an escape sequence chooses.
* `Iso2022Jp.decoder`, `Iso2022Jp.encoder`: The codec.
-/

namespace BufferFormat

namespace Iso2022Jp

/-- The character sets. -/
inductive CharSet where
  | ascii
  | roman
  | katakana
  | jis0208
  deriving DecidableEq, Repr

/-- Where a reader stands. -/
inductive Position where
  /-- Between characters. -/
  | between
  /-- After the first byte of a two-byte character. -/
  | trail (lead : Nat)
  /-- After the escape byte. -/
  | escape
  /-- After the escape byte and one more. -/
  | escapeEnd (b : Nat)
  deriving DecidableEq, Repr

/-- What a reader remembers: the set in force, its position, and whether the last thing read was
    an escape sequence. -/
structure Reader where
  set : CharSet
  position : Position
  escaped : Bool
  deriving DecidableEq, Repr

/-- The byte that starts an escape sequence. -/
def escapeByte : Nat := 0x1B

/-- The set that the two bytes after the escape byte choose. -/
def chosen? (b₁ b₂ : Nat) : Option CharSet :=
  if b₁ == 0x28 && b₂ == 0x42 then some .ascii
  else if b₁ == 0x28 && b₂ == 0x4A then some .roman
  else if b₁ == 0x28 && b₂ == 0x49 then some .katakana
  else if b₁ == 0x24 && (b₂ == 0x40 || b₂ == 0x42) then some .jis0208
  else none

/-- A byte between characters that starts no escape sequence: the next position and output. -/
def read (set : CharSet) (b : Nat) : Option (Position × List Char) :=
  match set with
  | .ascii =>
    if b < 0x80 ∧ b ≠ 0x0E ∧ b ≠ 0x0F then some (.between, [Char.ofNat b]) else none
  | .roman =>
    if b == 0x5C then some (.between, [Jis.yen])
    else if b == 0x7E then some (.between, [Jis.overline])
    else if b < 0x80 ∧ b ≠ 0x0E ∧ b ≠ 0x0F then some (.between, [Char.ofNat b])
    else none
  | .katakana =>
    if 0x21 ≤ b ∧ b ≤ 0x5F then some (.between, [Char.ofNat (0xFF61 + (b - 0x21))]) else none
  | .jis0208 =>
    if 0x21 ≤ b ∧ b ≤ 0x7E then some (.trail b, []) else none

/-- Reading ISO-2022-JP. -/
def decoder : Transducer UInt8 Char where
  State := Reader
  start := ⟨.ascii, .between, false⟩
  step q b :=
    let b := b.toNat
    match q.position with
    | .between =>
      if b == escapeByte then some ({ q with position := .escape }, [])
      else (read q.set b).map fun (position, out) => (⟨q.set, position, false⟩, out)
    | .trail lead =>
      if 0x21 ≤ b ∧ b ≤ 0x7E then
        (Index.jis0208.charAt? ((lead - 0x21) * 94 + (b - 0x21))).map fun c =>
          ({ q with position := .between }, [c])
      else none
    | .escape =>
      if b == 0x24 || b == 0x28 then some ({ q with position := .escapeEnd b }, []) else none
    | .escapeEnd b₁ =>
      match chosen? b₁ b with
      | none => none
      | some set => if q.escaped then none else some (⟨set, .between, true⟩, [])
  finish q := if q.position = .between then some [] else none

/-- The escape sequence that puts a set in force. -/
def escapeTo : CharSet → List UInt8
  | .ascii => [0x1B, 0x28, 0x42]
  | .roman => [0x1B, 0x28, 0x4A]
  | .katakana => [0x1B, 0x28, 0x49]
  | .jis0208 => [0x1B, 0x24, 0x42]

/-- The full-width forms of U+FF61 to U+FF9F in order. -/
def fullKatakana : List Nat := [
  0x3002, 0x300C, 0x300D, 0x3001, 0x30FB, 0x30F2, 0x30A1, 0x30A3, 0x30A5, 0x30A7, 0x30A9, 0x30E3,
  0x30E5, 0x30E7, 0x30C3, 0x30FC, 0x30A2, 0x30A4, 0x30A6, 0x30A8, 0x30AA, 0x30AB, 0x30AD, 0x30AF,
  0x30B1, 0x30B3, 0x30B5, 0x30B7, 0x30B9, 0x30BB, 0x30BD, 0x30BF, 0x30C1, 0x30C4, 0x30C6, 0x30C8,
  0x30CA, 0x30CB, 0x30CC, 0x30CD, 0x30CE, 0x30CF, 0x30D2, 0x30D5, 0x30D8, 0x30DB, 0x30DE, 0x30DF,
  0x30E0, 0x30E1, 0x30E2, 0x30E4, 0x30E6, 0x30E8, 0x30E9, 0x30EA, 0x30EB, 0x30EC, 0x30ED, 0x30EF,
  0x30F3, 0x309B, 0x309C]

/-- The character under which `c` is looked up in the index. -/
def widened (c : Char) : Char :=
  if Jis.halfKatakana c then
    match fullKatakana[c.toNat - 0xFF61]? with
    | some point => Char.ofNat point
    | none => c
  else Jis.fold c

/-- Put a set in force, if it is not already. -/
def switch (current target : CharSet) : List UInt8 :=
  if current = target then [] else escapeTo target

/-- Writing ISO-2022-JP; the state is the set in force. The bytes that control the sets cannot be
    written as characters, and a text ends in ASCII. -/
def encoder : Transducer Char UInt8 where
  State := CharSet
  start := .ascii
  step set c :=
    if c.toNat == 0x0E || c.toNat == 0x0F || c.toNat == escapeByte then none
    else if c.toNat < 0x80 then
      if set = .roman ∧ c.toNat ≠ 0x5C ∧ c.toNat ≠ 0x7E then
        some (.roman, [UInt8.ofNat c.toNat])
      else some (.ascii, switch set .ascii ++ [UInt8.ofNat c.toNat])
    else if c == Jis.yen then some (.roman, switch set .roman ++ [0x5C])
    else if c == Jis.overline then some (.roman, switch set .roman ++ [0x7E])
    else (Index.jis0208.pointer? (widened c)).map fun p =>
      (.jis0208, switch set .jis0208 ++
        [UInt8.ofNat (p / 94 + 0x21), UInt8.ofNat (p % 94 + 0x21)])
  finish set := some (switch set .ascii)

end Iso2022Jp

end BufferFormat
