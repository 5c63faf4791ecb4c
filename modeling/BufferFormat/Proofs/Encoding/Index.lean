import BufferFormat.Encoding.Index
import BufferFormat.Proofs.Encoding.CodePage
import Mathlib.Algebra.Group.Nat.Defs

/-!
# Indexes are read where they were searched

A multi-byte encoding finds the pointer of a character by searching its index,
and the character of a pointer by position. Searching may stop at any of the
places where a character stands, as a character may have several pointers. What
matters is the other direction: a pointer has one character. This holds as long
as the runs of the index do not overlap, and `ascending` checks that in one pass
over the runs.

The tables hold thousands of characters as strings, and a string is a poor thing
to evaluate: to get at its characters, the bytes of it have to be decoded. A row
is a run with the list of its characters, and everything that is checked by
evaluation is checked on the rows. `Listed` connects the two. Its constructors
match a string against the list that it was written as, which the unifier does
without evaluating anything, so a table is laid out by applying them.

Some checks ask whether a character occurs at all. As with code pages, the
characters met so far are kept as the bits of a number.

## Main definitions

* `Row`, `Index.rows`: A run with its characters as a list, and all of an index.
* `Listed`: An index with its rows.
* `ascending`: The runs do not overlap and stay below a bound.
* `marks`: The characters of an index as the bits of a number.
* `lookAt?`: The character at a pointer, looked up in ascending rows.
* `firstBelow`: Every character stands below a bound for the first time.
* `avoids`: There are no pointers between two bounds.
* `high`: No character of ASCII occurs.

## Theorems

* `Listed.rows_eq`: The rows that are listed are those of the index.
* `Index.charAt?_of_mem`: A pointer under which a run has a character has it in the index.
* `Index.exists_pointer?_of_marks`: A marked character has a pointer.
* `Index.pointer?_lt_of_firstBelow`, `Run.pointer?_of_avoids`, `Index.le_of_charAt?`: What the other
  checks say.
* `toNat_ofNat_add_ite`: Bytes may leave out a range.
* `reads_byte`: Bytes that stand for themselves are read as characters.
-/

namespace BufferFormat

/-- A run with its characters as a list. -/
inductive Row where
  | chars (first : Nat) (cs : List Char)
  | span (first count point : Nat)

/-- A run as a row. -/
def Run.row : Run → Row
  | .chars first cs => .chars first cs.toList
  | .span first count point => .span first count point

/-- The runs of an index as rows. -/
def Index.rows (ix : Index) : List Row :=
  ix.map Run.row

/-- An index with its rows. -/
inductive Listed : Index → List Row → Prop where
  | nil : Listed [] []
  | chars {ix : Index} {rows : List Row} (first : Nat) (cs : List Char) (h : Listed ix rows) :
      Listed (.chars first (String.ofList cs) :: ix) (.chars first cs :: rows)
  | span {ix : Index} {rows : List Row} (first count point : Nat) (h : Listed ix rows) :
      Listed (.span first count point :: ix) (.span first count point :: rows)

theorem Listed.append {ix ix' : Index} {rows rows' : List Row} (h : Listed ix rows)
    (h' : Listed ix' rows') : Listed (ix ++ ix') (rows ++ rows') := by
  induction h with
  | nil => exact h'
  | chars first cs _ ih => exact .chars first cs ih
  | span first count point _ ih => exact .span first count point ih

theorem Listed.rows_eq {ix : Index} {rows : List Row} (h : Listed ix rows) : ix.rows = rows := by
  induction h with
  | nil => rfl
  | chars first cs _ ih =>
      rw [Index.rows, List.map_cons, Run.row, String.toList_ofList]
      exact congrArg (Row.chars first cs :: ·) ih
  | span first count point _ ih =>
      rw [Index.rows, List.map_cons, Run.row]
      exact congrArg (Row.span first count point :: ·) ih

namespace Row

/-- The pointer with which a row starts. -/
def first : Row → Nat
  | .chars first _ => first
  | .span first _ _ => first

/-- The pointer after the last one. -/
def stop : Row → Nat
  | .chars first cs => first + cs.length
  | .span first count _ => first + count

/-- The character at pointer `p`. -/
def charAt? (p : Nat) : Row → Option Char
  | .chars first cs => if first ≤ p then cs[p - first]? else none
  | .span first count point =>
    if first ≤ p ∧ p < first + count then some (Char.ofNat (point + (p - first))) else none

/-- The first pointer of character `c`. -/
def pointer? (c : Char) : Row → Option Nat
  | .chars first cs => (cs.idxOf? c).map (first + ·)
  | .span first count point =>
    if point ≤ c.toNat ∧ c.toNat < point + count then some (first + (c.toNat - point)) else none

/-- Outside of a row there are no characters. -/
theorem charAt?_eq_none (row : Row) (p : Nat) (h : p < row.first ∨ row.stop ≤ p) :
    row.charAt? p = none := by
  cases row with
  | chars first cs =>
      by_cases hp : first ≤ p
      · have hstop : first + cs.length ≤ p := h.resolve_left (Nat.not_lt.mpr hp)
        rw [charAt?, if_pos hp, List.getElem?_eq_none (by omega)]
      · rw [charAt?, if_neg hp]
  | span first count point =>
      have hp : ¬(first ≤ p ∧ p < first + count) := by
        intro hp
        exact h.elim (Nat.not_lt.mpr hp.1) (Nat.not_le.mpr hp.2)
      rw [charAt?, if_neg hp]

theorem mem_of_pointer?_span {c : Char} {first count point p : Nat}
    (h : (Row.span first count point).pointer? c = some p) :
    point ≤ c.toNat ∧ c.toNat < point + count := by
  rw [pointer?] at h
  by_cases hc : point ≤ c.toNat ∧ c.toNat < point + count
  · exact hc
  · rw [if_neg hc] at h
    cases h

theorem bounds_of_charAt? {row : Row} {p : Nat} {c : Char} (h : row.charAt? p = some c) :
    row.first ≤ p ∧ p < row.stop := by
  by_cases hin : row.first ≤ p ∧ p < row.stop
  · exact hin
  · rw [row.charAt?_eq_none p (by omega)] at h
    cases h

/-- A pointer of a character has that character. -/
theorem charAt?_of_pointer? {row : Row} {c : Char} {p : Nat} (h : row.pointer? c = some p) :
    row.charAt? p = some c := by
  cases row with
  | chars first cs =>
      rcases Option.map_eq_some_iff.mp h with ⟨i, hi, rfl⟩
      rcases List.idxOf?_eq_some_iff.mp hi with ⟨hlt, hget, _⟩
      rw [charAt?, if_pos (Nat.le_add_right _ _), Nat.add_sub_cancel_left,
        List.getElem?_eq_getElem hlt, hget]
  | span first count point =>
      rw [pointer?] at h
      by_cases hc : point ≤ c.toNat ∧ c.toNat < point + count
      · rw [if_pos hc] at h
        cases h
        have hin : first ≤ first + (c.toNat - point) ∧
            first + (c.toNat - point) < first + count := by omega
        rw [charAt?, if_pos hin, Nat.add_sub_cancel_left, Nat.add_sub_cancel' hc.1,
          Char.ofNat_toNat]
      · rw [if_neg hc] at h
        cases h

end Row

namespace Run

/-- A text has no more characters than bytes. -/
theorem length_toList_le (s : String) : s.toList.length ≤ s.utf8ByteSize := by
  obtain ⟨cs, rfl⟩ : ∃ cs, s = String.ofList cs := ⟨s.toList, String.ofList_toList.symm⟩
  rw [String.toList_ofList]
  induction cs with
  | nil => exact Nat.zero_le _
  | cons c cs ih =>
      have hsize := c.utf8Size_pos
      rw [String.ofList_cons, String.utf8ByteSize_append, String.utf8ByteSize_singleton,
        List.length_cons]
      omega

theorem charAt?_row (r : Run) (p : Nat) : r.row.charAt? p = r.charAt? p := by
  cases r with
  | chars first cs =>
      unfold row Row.charAt? charAt?
      have hlength := length_toList_le cs
      -- Searching by position gives up at the number of bytes, which is never too early.
      by_cases hp : first ≤ p
      · by_cases hlt : p - first < cs.utf8ByteSize
        · simp only [hp, hlt, and_self, if_true]
        · -- Past the last byte there is no character either.
          simp only [hp, hlt, and_false, if_true, if_false]
          exact List.getElem?_eq_none (by omega)
      · simp only [hp, false_and, if_false]
  | span first count point => rfl

theorem pointer?_row (r : Run) (c : Char) : r.row.pointer? c = r.pointer? c := by
  cases r with
  | chars first cs => rfl
  | span first count point => rfl

end Run

/-! ## Runs do not overlap -/

/-- Every row starts where the one before has stopped, or later, and none goes beyond `hi`. -/
def ascending : Nat → List Row → Nat → Bool
  | lo, [], hi => lo ≤ hi
  | lo, row :: rows, hi => lo ≤ row.first && ascending row.stop rows hi

theorem ascending_cons {lo hi : Nat} {row : Row} {rows : List Row}
    (h : ascending lo (row :: rows) hi = true) :
    lo ≤ row.first ∧ ascending row.stop rows hi = true := by
  rw [ascending, Bool.and_eq_true, decide_eq_true_eq] at h
  exact h

theorem Row.first_le_stop (row : Row) : row.first ≤ row.stop := by
  cases row with
  | chars first cs => exact Nat.le_add_right _ _
  | span first count point => exact Nat.le_add_right _ _

theorem le_of_ascending {lo hi : Nat} {rows : List Row} (h : ascending lo rows hi = true) :
    lo ≤ hi := by
  induction rows generalizing lo with
  | nil => exact of_decide_eq_true h
  | cons row rows ih =>
      rcases ascending_cons h with ⟨hle, hrest⟩
      exact Nat.le_trans hle (Nat.le_trans row.first_le_stop (ih hrest))

/-- A pointer under which some run has a character has that character in the whole index. -/
theorem Index.charAt?_of_mem {ix : Index} {lo hi : Nat} (h : ascending lo ix.rows hi = true)
    {r : Run} (hr : r ∈ ix) {c : Char} {p : Nat} (hp : r.charAt? p = some c) :
    ix.charAt? p = some c ∧ lo ≤ p ∧ p < hi := by
  -- That the pointer is not below `lo` keeps the runs before from having a character there.
  induction ix generalizing lo with
  | nil => cases hr
  | cons head ix ih =>
      rcases ascending_cons h with ⟨hlo, hrest⟩
      have hhi := le_of_ascending hrest
      rcases List.mem_cons.mp hr with rfl | hr
      · have hrow := hp
        rw [← Run.charAt?_row] at hrow
        rcases Row.bounds_of_charAt? hrow with ⟨hfirst, hstop⟩
        refine ⟨?_, Nat.le_trans hlo hfirst, Nat.lt_of_lt_of_le hstop hhi⟩
        rw [Index.charAt?, List.findSome?_cons, hp]
      · rcases ih hrest hr with ⟨hchar, hstop, hlt⟩
        have hbefore := head.row.charAt?_eq_none p (Or.inr hstop)
        rw [Run.charAt?_row] at hbefore
        have hfirst := head.row.first_le_stop
        refine ⟨?_, by omega, hlt⟩
        rw [Index.charAt?, List.findSome?_cons, hbefore]
        exact hchar

/-- The same for a pointer that a run gives for a character. -/
theorem Index.charAt?_of_mem_pointer? {ix : Index} {lo hi : Nat}
    (h : ascending lo ix.rows hi = true) {r : Run} (hr : r ∈ ix) {c : Char} {p : Nat}
    (hp : r.pointer? c = some p) : ix.charAt? p = some c ∧ p < hi := by
  rw [← Run.pointer?_row] at hp
  have hchar := Row.charAt?_of_pointer? hp
  rw [Run.charAt?_row] at hchar
  rcases charAt?_of_mem h hr hchar with ⟨hfound, _, hlt⟩
  exact ⟨hfound, hlt⟩

/-- What is found by searching is found again by position. -/
theorem Index.charAt?_of_pointer? {ix : Index} {lo hi : Nat} (h : ascending lo ix.rows hi = true)
    {c : Char} {p : Nat} (hp : ix.pointer? c = some p) : ix.charAt? p = some c ∧ p < hi := by
  rcases List.exists_of_findSome?_eq_some hp with ⟨r, hr, hp⟩
  exact charAt?_of_mem_pointer? h hr hp

/-- The character at pointer `p` where rows ascend. Only the last row that starts in time is
    read. -/
def lookAt? (p : Nat) : List Row → Option Char
  | [] => none
  | [row] => row.charAt? p
  | row :: next :: rows => if p < next.first then row.charAt? p else lookAt? p (next :: rows)

theorem exists_mem_of_lookAt? {rows : List Row} {p : Nat} {c : Char}
    (h : lookAt? p rows = some c) : ∃ row ∈ rows, row.charAt? p = some c := by
  fun_induction lookAt? p rows with
  | case1 => cases h
  | case2 row => exact ⟨row, List.mem_cons_self, h⟩
  | case3 row next rows hlt => exact ⟨row, List.mem_cons_self, h⟩
  | case4 row next rows hlt ih =>
      rcases ih h with ⟨found, hmem, hchar⟩
      exact ⟨found, List.mem_cons_of_mem row hmem, hchar⟩

theorem Index.charAt?_of_lookAt? {ix : Index} {lo hi : Nat} (h : ascending lo ix.rows hi = true)
    {p : Nat} {c : Char} (hp : lookAt? p ix.rows = some c) : ix.charAt? p = some c := by
  rcases exists_mem_of_lookAt? hp with ⟨row, hrow, hchar⟩
  rcases List.mem_map.mp hrow with ⟨r, hr, rfl⟩
  rw [Run.charAt?_row] at hchar
  exact (charAt?_of_mem h hr hchar).1

/-! ## Which characters occur -/

/-- The bits of `seen` and those of some characters. -/
def markChars : List Char → Nat → Nat
  | [], seen => seen
  | c :: cs, seen => markChars cs (seen ||| 1 <<< c.toNat)

/-- The bits of `seen` and those of the characters of a row. -/
def Row.mark : Row → Nat → Nat
  | .chars _ cs, seen => markChars cs seen
  | .span _ count point, seen => seen ||| (2 ^ count - 1) <<< point

/-- The bits of `seen` and those of the characters of all rows. -/
def marks : List Row → Nat → Nat
  | [], seen => seen
  | row :: rows, seen => marks rows (row.mark seen)

theorem testBit_markChars (cs : List Char) (c : Char) :
    ∀ seen : Nat, (markChars cs seen).testBit c.toNat = true →
      seen.testBit c.toNat = true ∨ c ∈ cs := by
  induction cs with
  | nil => exact fun seen h => Or.inl h
  | cons head cs ih =>
      intro seen h
      rcases ih _ h with hseen | hmem
      · rw [CodePage.testBit_seen_or, Bool.or_eq_true, decide_eq_true_eq, Char.toNat_inj] at hseen
        rcases hseen with hseen | rfl
        · exact Or.inl hseen
        · exact Or.inr List.mem_cons_self
      · exact Or.inr (List.mem_cons_of_mem head hmem)

/-- A character that a row marks has a pointer in it. -/
theorem Row.testBit_mark (row : Row) (c : Char) (seen : Nat)
    (h : (row.mark seen).testBit c.toNat = true) :
    seen.testBit c.toNat = true ∨ ∃ p, row.pointer? c = some p := by
  cases row with
  | chars first cs =>
      rcases testBit_markChars cs c seen h with hseen | hmem
      · exact Or.inl hseen
      · refine Or.inr ?_
        cases hi : cs.idxOf? c with
        | none => exact absurd hmem (List.idxOf?_eq_none_iff.mp hi)
        | some i => exact ⟨first + i, by rw [pointer?, hi, Option.map_some]⟩
  | span first count point =>
      rw [mark, Nat.testBit_or, Bool.or_eq_true, Nat.testBit_shiftLeft,
        Nat.testBit_two_pow_sub_one, Bool.and_eq_true, decide_eq_true_eq, decide_eq_true_eq] at h
      rcases h with hseen | ⟨hle, hlt⟩
      · exact Or.inl hseen
      · exact Or.inr ⟨first + (c.toNat - point), by rw [pointer?, if_pos (by omega)]⟩

/-- A marked character was marked before, or it has a pointer in some row. -/
theorem exists_mem_of_marks (rows : List Row) (c : Char) :
    ∀ seen : Nat, (marks rows seen).testBit c.toNat = true →
      seen.testBit c.toNat = true ∨ ∃ row ∈ rows, ∃ p, row.pointer? c = some p := by
  induction rows with
  | nil => exact fun seen h => Or.inl h
  | cons head rows ih =>
      intro seen h
      rcases ih _ h with hseen | ⟨row, hrow, hp⟩
      · rcases head.testBit_mark c seen hseen with hseen | hp
        · exact Or.inl hseen
        · exact Or.inr ⟨head, List.mem_cons_self, hp⟩
      · exact Or.inr ⟨row, List.mem_cons_of_mem head hrow, hp⟩

/-- A character that an index marks has a pointer in it. -/
theorem Index.exists_pointer?_of_marks (ix : Index) (c : Char) (seen : Nat)
    (h : (marks ix.rows seen).testBit c.toNat = true) :
    seen.testBit c.toNat = true ∨ ∃ p, ix.pointer? c = some p := by
  rcases exists_mem_of_marks ix.rows c seen h with hseen | ⟨row, hrow, p, hp⟩
  · exact Or.inl hseen
  · rcases List.mem_map.mp hrow with ⟨r, hr, rfl⟩
    cases hfound : ix.pointer? c with
    | some q => exact Or.inr ⟨q, rfl⟩
    | none =>
        rw [Run.pointer?_row, List.findSome?_eq_none_iff.mp hfound r hr] at hp
        cases hp

/-- Whether all characters of a row have their bits in `seen`. -/
def Row.allIn (seen : Nat) : Row → Bool
  | .chars _ cs => cs.all fun c => seen.testBit c.toNat
  | .span .. => false

/-- Every character of a row that goes beyond `bound` has its bit in `seen`, or was in a row
    before. -/
def firstBelow (bound : Nat) : List Row → Nat → Bool
  | [], _ => true
  | row :: rows, seen =>
    (row.stop ≤ bound || row.allIn seen) && firstBelow bound rows (row.mark seen)

/-- A character with a pointer in a row of known characters is known. -/
theorem Row.testBit_of_allIn {row : Row} {seen : Nat} (h : row.allIn seen = true) {c : Char}
    {p : Nat} (hp : row.pointer? c = some p) : seen.testBit c.toNat = true := by
  cases row with
  | chars first cs =>
      rcases Option.map_eq_some_iff.mp hp with ⟨i, hi, _⟩
      rcases List.idxOf?_eq_some_iff.mp hi with ⟨hlt, hget, _⟩
      exact List.all_eq_true.mp h c (hget ▸ List.getElem_mem hlt)
  | span first count point => cases h

/-- The first pointer of a character that is not known before lies below the bound. -/
theorem Index.pointer?_lt_of_firstBelow {ix : Index} {bound : Nat} {c : Char} {p : Nat} :
    ∀ {seen : Nat}, firstBelow bound ix.rows seen = true → seen.testBit c.toNat = false →
      ix.pointer? c = some p → p < bound := by
  induction ix with
  | nil => exact fun _ _ hp => nomatch hp
  | cons head ix ih =>
      intro seen h hnew hp
      rw [Index.rows, List.map_cons, firstBelow, Bool.and_eq_true, Bool.or_eq_true,
        decide_eq_true_eq] at h
      rcases h with ⟨hhead, hrest⟩
      rw [Index.pointer?, List.findSome?_cons] at hp
      cases hfound : head.pointer? c with
      | some q =>
          rw [hfound] at hp
          cases hp
          rw [← Run.pointer?_row] at hfound
          rcases hhead with hstop | hall
          · have hbounds := Row.bounds_of_charAt? (Row.charAt?_of_pointer? hfound)
            exact Nat.lt_of_lt_of_le hbounds.2 hstop
          · rw [Row.testBit_of_allIn hall hfound] at hnew
            cases hnew
      | none =>
          rw [hfound] at hp
          refine ih hrest ?_ hp
          -- The first row does not have the character, so it is as new as before.
          cases hbit : (head.row.mark seen).testBit c.toNat with
          | false => rfl
          | true =>
              rcases head.row.testBit_mark c seen hbit with hseen | ⟨q, hq⟩
              · rw [hseen] at hnew
                cases hnew
              · rw [Run.pointer?_row, hfound] at hq
                cases hq

/-- There are no pointers from `lo` on and below `hi`. -/
def avoids (lo hi : Nat) (rows : List Row) : Bool :=
  rows.all fun row => row.stop ≤ lo || hi ≤ row.first

theorem Run.pointer?_of_avoids {ix : Index} {lo hi : Nat} (h : avoids lo hi ix.rows = true)
    {r : Run} (hr : r ∈ ix) {c : Char} {p : Nat} (hp : r.pointer? c = some p) :
    p < lo ∨ hi ≤ p := by
  have hrow := List.all_eq_true.mp h r.row (List.mem_map_of_mem hr)
  rw [Bool.or_eq_true, decide_eq_true_eq, decide_eq_true_eq] at hrow
  rw [← pointer?_row] at hp
  rcases Row.bounds_of_charAt? (Row.charAt?_of_pointer? hp) with ⟨hfirst, hstop⟩
  exact hrow.imp (Nat.lt_of_lt_of_le hstop) (Nat.le_trans · hfirst)

/-- Whether a row holds no character of ASCII. A block of code points lies where all of them are
    characters. -/
def Row.high : Row → Bool
  | .chars _ cs => cs.all fun c => 0x80 ≤ c.toNat
  | .span _ count point => 0xE000 ≤ point && point + count ≤ 0x110000

/-- No row holds a character of ASCII. -/
def high (rows : List Row) : Bool :=
  rows.all Row.high

theorem Row.le_of_charAt? {row : Row} (h : row.high = true) {p : Nat} {c : Char}
    (hp : row.charAt? p = some c) : 0x80 ≤ c.toNat := by
  cases row with
  | chars first cs =>
      rw [charAt?] at hp
      split at hp
      · exact of_decide_eq_true (List.all_eq_true.mp h c (List.mem_of_getElem? hp))
      · cases hp
  | span first count point =>
      rw [high, Bool.and_eq_true, decide_eq_true_eq, decide_eq_true_eq] at h
      rw [charAt?] at hp
      split at hp
      · rename_i hin
        cases hp
        rw [Text.toNat_ofNat _ (Or.inr ⟨by omega, by omega⟩)]
        omega
      · cases hp

/-- What is read by such an index is no character of ASCII. -/
theorem Index.le_of_charAt? {ix : Index} (h : high ix.rows = true) {p : Nat} {c : Char}
    (hp : ix.charAt? p = some c) : 0x80 ≤ c.toNat := by
  rcases List.exists_of_findSome?_eq_some hp with ⟨r, hr, hp⟩
  rw [← Run.charAt?_row] at hp
  exact Row.le_of_charAt? (List.all_eq_true.mp h r.row (List.mem_map_of_mem hr)) hp

/-! ## Bytes -/

/-- Lead and trail bytes count on behind a gap, and stay bytes. -/
theorem toNat_ofNat_add_ite (n limit near far : Nat)
    (h : (n + if n < limit then near else far) < 256) :
    (UInt8.ofNat (n + if n < limit then near else far)).toNat =
      n + if n < limit then near else far :=
  UInt8.toNat_ofNat_of_lt' h

/-- Where a reader takes all bytes below a limit as characters, their numbers are read so. -/
theorem reads_byte {d : Transducer UInt8 Char} {q : d.State} {limit n : Nat}
    (hstep : ∀ b : UInt8, b.toNat < limit → d.step q b = some (q, [Char.ofNat b.toNat]))
    (hn : n < limit) (hlimit : limit ≤ 256) :
    d.reads q [UInt8.ofNat n] = some (q, [Char.ofNat n]) := by
  have hbyte : (UInt8.ofNat n).toNat = n := UInt8.toNat_ofNat_of_lt' (show n < 256 by omega)
  have hread := hstep (UInt8.ofNat n) (by omega)
  rw [hbyte] at hread
  exact d.reads_one hread

end BufferFormat
