/-!
# Indexes

A multi-byte encoding numbers its characters by pointers and computes the bytes of a character
from its pointer. An index is the numbering: runs of consecutive pointers, given by their
characters or, in the private use area, as a block that grows with the pointer.

## Main definitions

* `Run`, `Index`: Consecutive pointers, and a list of such runs.
* `Index.charAt?`: The character at a pointer.
* `Index.pointer?`: The first pointer of a character.
-/

namespace BufferFormat

/-- Consecutive pointers of an index. -/
inductive Run where
  /-- The characters from a pointer on. -/
  | chars (first : Nat) (cs : String)
  /-- `count` consecutive code points from a pointer on. -/
  | span (first count point : Nat)

/-- The runs of an index, with ascending pointers. -/
abbrev Index := List Run

namespace Run

/-- The character at pointer `p`. A run has no more characters than bytes, which rules most runs
    out without reading them. -/
def charAt? (p : Nat) : Run → Option Char
  | .chars first cs =>
    if first ≤ p ∧ p - first < cs.utf8ByteSize then cs.toList[p - first]? else none
  | .span first count point =>
    if first ≤ p ∧ p < first + count then some (Char.ofNat (point + (p - first))) else none

/-- The first pointer of character `c` in a run. -/
def pointer? (c : Char) : Run → Option Nat
  | .chars first cs => (cs.toList.idxOf? c).map (first + ·)
  | .span first count point =>
    if point ≤ c.toNat ∧ c.toNat < point + count then some (first + (c.toNat - point)) else none

end Run

namespace Index

/-- The character at pointer `p`. -/
def charAt? (ix : Index) (p : Nat) : Option Char :=
  ix.findSome? (Run.charAt? p)

/-- The first pointer of character `c`. -/
def pointer? (ix : Index) (c : Char) : Option Nat :=
  ix.findSome? (Run.pointer? c)

end Index

end BufferFormat
