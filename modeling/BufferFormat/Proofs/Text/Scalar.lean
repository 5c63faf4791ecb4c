/-!
# Characters and bytes as numbers

The encodings compute with code points and byte values, and come back to
characters and bytes at the end. The conversions there and back are collected
here, each with the side condition under which nothing is cut off.

## Theorems

* `toNat_ofNat`: The code point of the character with a valid code point.
* `ofNat_eq_iff`: A character is known by its code point.
* `byte_ofNat_eq`: A byte is known by its value.
-/

namespace BufferFormat

namespace Text

theorem toNat_ofNat (n : Nat) (h : n.isValidChar) : (Char.ofNat n).toNat = n := by
  rw [Char.ofNat, dif_pos h]
  rfl

theorem ofNat_eq_iff (n : Nat) (c : Char) (h : n.isValidChar) :
    Char.ofNat n = c ↔ c.toNat = n := by
  constructor
  · intro hc
    rw [← hc, toNat_ofNat n h]
  · intro hn
    rw [← hn, Char.ofNat_toNat]

theorem byte_ofNat_eq (b : UInt8) (n : Nat) (h : n = b.toNat) : UInt8.ofNat n = b := by
  rw [h, UInt8.ofNat_toNat]

end Text

end BufferFormat
