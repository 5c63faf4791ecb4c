/-!
# Blank characters

Two notions of blank meet in this library. Characters are blank by Unicode's `White_Space`
property, which decides how labels, messages and diffs are trimmed. Bytes are blank by the five
ASCII code points that a byte-wise test can see, which decides whether a diff is empty before it
is decoded.

## Main definitions

* `isBlank`: The characters of `White_Space`.
* `isBlankByte`: Space, tab, line feed, form feed and carriage return.
* `trimChars`, `trim`: Removing blanks from both ends.
-/

namespace BufferFormat

namespace Text

/-- The characters with Unicode's `White_Space` property. -/
def isBlank (c : Char) : Bool :=
  (0x09 ≤ c.toNat && c.toNat ≤ 0x0D) || c.toNat == 0x20 || c.toNat == 0x85 || c.toNat == 0xA0 ||
    c.toNat == 0x1680 || (0x2000 ≤ c.toNat && c.toNat ≤ 0x200A) || c.toNat == 0x2028 ||
    c.toNat == 0x2029 || c.toNat == 0x202F || c.toNat == 0x205F || c.toNat == 0x3000

/-- The bytes that are blank without knowing an encoding. The vertical tab is not among them. -/
def isBlankByte (b : UInt8) : Bool :=
  b == 0x20 || b == 0x09 || b == 0x0A || b == 0x0C || b == 0x0D

/-- Drop blanks from both ends. -/
def trimChars (cs : List Char) : List Char :=
  ((cs.dropWhile isBlank).reverse.dropWhile isBlank).reverse

/-- Drop blanks from both ends of a string. -/
def trim (s : String) : String :=
  String.ofList (trimChars s.toList)

end Text

end BufferFormat
