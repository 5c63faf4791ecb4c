import BufferFormat.Encoding.Gb18030
import BufferFormat.Proofs.Encoding.Index

/-!
# GB 18030 and GBK are read back but for former codes

GB 18030 has a code for every character but one. Most are in the two-byte index,
and the four-byte codes number all that are not, in the order of their code
points. The ranges of that numbering are not derived from the index: they are a
table of their own, and a four-byte code is read back only if the two tables fit
together. Between two ranges lie the characters of the index. `gapless` checks
that all of them do, with the bits of a number for the characters of the index,
and `inLastRange_pointerInLastRange` says what follows.

Eighteen private use characters are an exception by intention. Their codes were
given to other characters, and they are still written with these codes, so that
they are read back as the others. `readBack` names them.

## Main definitions

* `formerReadings`, `readBack`: What a character is read back as.
* `gapless`: Between the ranges there is nothing that needs a four-byte code.

## Theorems

* `gb18030_checked`: What is evaluated on the tables.
* `inLastRange_pointerInLastRange`: Code points that are in no gap are numbered without loss.
* `run_decoder`: What is written in GB 18030 is read back, character by character.
* `Gbk.run_decoder`: The same for GBK.
-/

namespace BufferFormat

namespace Gb18030

/-- The code points that have the former codes of private use characters now: vertical forms and
    some ideographs. -/
def formerReadings : List (Nat × Nat) := [
  (0xE78D, 0xFE10), (0xE78E, 0xFE12), (0xE78F, 0xFE11), (0xE790, 0xFE13), (0xE791, 0xFE14),
  (0xE792, 0xFE15), (0xE793, 0xFE16), (0xE794, 0xFE17), (0xE795, 0xFE18), (0xE796, 0xFE19),
  (0xE81E, 0x9FB4), (0xE826, 0x9FB5), (0xE82B, 0x9FB6), (0xE82C, 0x9FB7), (0xE832, 0x9FB8),
  (0xE843, 0x9FB9), (0xE854, 0x9FBA), (0xE864, 0x9FBB)]

/-- What a character is read back as after it was written in GB 18030 or GBK. -/
def readBack (c : Char) : Char :=
  match formerReadings.lookup c.toNat with
  | some point => Char.ofNat point
  | none => c

/-- The pointer of a lead and a trail byte. -/
def pointerOf (lead trail : Nat) : Nat :=
  (lead - 0x81) * 190 + (trail - if trail < 0x7F then 0x40 else 0x41)

/-! ## The tables -/

/-- Whether all code points from `lo` on and below `hi` have their bits in `seen`. -/
def covers (seen lo hi : Nat) : Bool :=
  (seen >>> lo) % 2 ^ (hi - lo) == 2 ^ (hi - lo) - 1

theorem testBit_of_covers {seen lo hi n : Nat} (h : covers seen lo hi = true) (hlo : lo ≤ n)
    (hhi : n < hi) : seen.testBit n = true := by
  rw [covers, beq_iff_eq] at h
  have hbit : ((seen >>> lo) % 2 ^ (hi - lo)).testBit (n - lo) = true := by
    rw [h, Nat.testBit_two_pow_sub_one, decide_eq_true_eq]
    omega
  rw [Nat.testBit_mod_two_pow, Bool.and_eq_true, Nat.testBit_shiftRight,
    Nat.add_sub_cancel' hlo] at hbit
  exact hbit.2

/-- Both numbers of the ranges ascend, and all code points between the end of a range and the start
    of the next have their bits in `seen`. No range but the last one goes beyond the four-byte codes
    of the basic plane. -/
def gapless (seen : Nat) : List (Nat × Nat) → Bool
  | [] => false
  | [(first, point)] => first == 189000 && point == 0x10000
  | (first, point) :: (first', point') :: rest =>
    first < first' && covers seen (point + (first' - first)) point' &&
      min first' (first + (point' - point)) ≤ 39420 && gapless seen ((first', point') :: rest)

/-- The rows of what has no code of its own: surrogates, the one character that cannot be written,
    the one with a four-byte code by itself, and those that are written with former codes. -/
def uncoded : List Row :=
  [.span 0 0x800 0xD800, .span 0 1 0xE5E5, .span 0 1 0xE7C7] ++
    formerCodes.map fun entry => .span 0 1 entry.1

/-- A former code is a pair of bytes whose pointer has the character that is listed for it. -/
def formerAgrees (rows : List Row) (entry : Nat × List UInt8) : Bool :=
  match entry.2, formerReadings.lookup entry.1 with
  | [lead, trail], some point =>
    isLead lead.toNat && isTrail trail.toNat &&
      lookAt? (pointerOf lead.toNat trail.toNat) rows == some (Char.ofNat point)
  | _, _ => false

end Gb18030

/-- The runs of the index do not overlap and fit into two bytes, former codes are read as listed,
    and what is in no range has a code. One code point inside of a range has a two-byte code all the
    same, and its four-byte code belongs to another character. There is no character of ASCII. -/
theorem Index.gb18030_checked :
    ascending 0 Index.gb18030.rows 23940 = true ∧
      Gb18030.formerCodes.all (Gb18030.formerAgrees Index.gb18030.rows) = true ∧
      Gb18030.gapless (marks Index.gb18030.rows (marks Gb18030.uncoded 0)) gb18030Ranges = true ∧
      (marks Index.gb18030.rows (marks Gb18030.uncoded 0)).testBit 0x1E3F = true ∧
      high Index.gb18030.rows = true := by
  obtain ⟨rows, hlisted, hchecked⟩ : ∃ rows, Listed Index.gb18030 rows ∧
      (ascending 0 rows 23940 = true ∧
      Gb18030.formerCodes.all (Gb18030.formerAgrees rows) = true ∧
      Gb18030.gapless (marks rows (marks Gb18030.uncoded 0)) gb18030Ranges = true ∧
      (marks rows (marks Gb18030.uncoded 0)).testBit 0x1E3F = true ∧ high rows = true) := by
    apply Exists.intro
    apply And.intro
    · unfold Index.gb18030
      repeat apply Listed.append
      · unfold Index.gb18030From0
        repeat (first | exact .nil | apply Listed.chars | apply Listed.span)
      · unfold Index.gb18030From3800
        repeat (first | exact .nil | apply Listed.chars | apply Listed.span)
      · unfold Index.gb18030From7449
        repeat (first | exact .nil | apply Listed.chars | apply Listed.span)
      · unfold Index.gb18030From11098
        repeat (first | exact .nil | apply Listed.chars | apply Listed.span)
      · unfold Index.gb18030From14898
        repeat (first | exact .nil | apply Listed.chars | apply Listed.span)
      · unfold Index.gb18030From18659
        repeat (first | exact .nil | apply Listed.chars | apply Listed.span)
      · unfold Index.gb18030From22459
        repeat (first | exact .nil | apply Listed.chars | apply Listed.span)
    · decide +kernel
  rw [hlisted.rows_eq]
  exact hchecked

namespace Gb18030

/-! ## Four-byte codes -/

/-- What `gapless` says about two ranges that follow each other. -/
theorem gapless_cons {seen first point first' point' : Nat} {rest : List (Nat × Nat)}
    (h : gapless seen ((first, point) :: (first', point') :: rest) = true) :
    first < first' ∧ covers seen (point + (first' - first)) point' = true ∧
      min first' (first + (point' - point)) ≤ 39420 ∧
      gapless seen ((first', point') :: rest) = true := by
  simp only [gapless, Bool.and_eq_true, decide_eq_true_eq] at h
  exact ⟨h.1.1.1, h.1.1.2, h.1.2, h.2⟩

/-- A code point in no gap has a four-byte pointer that belongs to no other one. -/
theorem inLastRange_pointerInLastRange {seen n : Nat} (hn : seen.testBit n = false)
    (ranges : List (Nat × Nat)) :
    ∀ (first point found : Nat), gapless seen ((first, point) :: ranges) = true → point ≤ n →
      inLastRange (pointerInLastRange n ranges (first + (n - point)))
          ((first, point) :: ranges) found = n ∧
        first ≤ pointerInLastRange n ranges (first + (n - point)) ∧
        (pointerInLastRange n ranges (first + (n - point)) < 39420 ∨
          0x10000 ≤ n ∧ pointerInLastRange n ranges (first + (n - point)) =
            189000 + (n - 0x10000)) := by
  -- The induction follows the search for the last range that starts in time. The first range of
  -- those that are left is always one that does.
  induction ranges with
  | nil =>
      intro first point found h hle
      simp only [gapless, Bool.and_eq_true, beq_iff_eq] at h
      rcases h with ⟨rfl, rfl⟩
      rw [pointerInLastRange, inLastRange, if_pos (Nat.le_add_right _ _), inLastRange]
      refine ⟨by omega, Nat.le_add_right _ _, Or.inr ⟨hle, rfl⟩⟩
  | cons range ranges ih =>
      intro first point found h hle
      rcases range with ⟨first', point'⟩
      rcases gapless_cons h with ⟨hfirst, hcovers, hbound, hrest⟩
      rw [pointerInLastRange]
      by_cases hnext : point' ≤ n
      · -- The code point is in a later range, and the pointer is as well.
        rw [if_pos hnext]
        rcases ih first' point' (point + (pointerInLastRange n ranges (first' + (n - point')) -
          first)) hrest hnext with ⟨hback, hge, hlt⟩
        refine ⟨?_, Nat.le_trans (Nat.le_of_lt hfirst) hge, hlt⟩
        rw [inLastRange, if_pos (Nat.le_trans (Nat.le_of_lt hfirst) hge)]
        exact hback
      · -- It is before the next range, and in this one, as it is in no gap.
        rw [if_neg hnext]
        have hin : n < point + (first' - first) := by
          by_cases hgap : point + (first' - first) ≤ n
          · rw [testBit_of_covers hcovers hgap (by omega)] at hn
            cases hn
          · omega
        refine ⟨?_, Nat.le_add_right _ _, Or.inl (by omega)⟩
        rw [inLastRange, if_pos (Nat.le_add_right _ _), inLastRange,
          if_neg (show ¬first' ≤ first + (n - point) by omega)]
        omega

/-- The four-byte pointer of a code point in no gap is in one of the two blocks of four-byte codes,
    and is numbered back to the code point. -/
theorem inLastRange_of_gap {n : Nat} (hle : 0x80 ≤ n)
    (hgap : (marks Index.gb18030.rows (marks uncoded 0)).testBit n = false) :
    inLastRange (pointerInLastRange n gb18030Ranges 0) gb18030Ranges 0 = n ∧
      (pointerInLastRange n gb18030Ranges 0 < 39420 ∨
        0x10000 ≤ n ∧ pointerInLastRange n gb18030Ranges 0 = 189000 + (n - 0x10000)) := by
  have hgapless := Index.gb18030_checked.2.2.1
  obtain ⟨ranges, hranges⟩ : ∃ ranges, gb18030Ranges = (0, 0x80) :: ranges := ⟨_, rfl⟩
  rw [hranges] at hgapless ⊢
  rcases inLastRange_pointerInLastRange hgap ranges 0 0x80 0 hgapless hle with ⟨hback, _, hlt⟩
  rw [pointerInLastRange, if_pos hle]
  exact ⟨hback, hlt⟩

/-- The four-byte pointer of a character in no gap is read as the character. -/
theorem rangeChar?_rangePointer {c : Char} (hle : 0x80 ≤ c.toNat)
    (hgap : c.toNat = 0xE7C7 ∨
      (marks Index.gb18030.rows (marks uncoded 0)).testBit c.toNat = false) :
    rangeChar? (rangePointer c) = some c ∧ rangePointer c ≤ 1237575 := by
  by_cases hown : c.toNat = 0xE7C7
  · -- The one character whose code stands in the place of another's.
    have hpointer : rangePointer c = 7457 := by
      rw [rangePointer, if_pos (beq_iff_eq.mpr hown)]
    rw [hpointer, rangeChar?, if_neg (by decide), if_pos (by decide), ← hown, Char.ofNat_toNat]
    exact ⟨rfl, by decide⟩
  · have hgap := hgap.resolve_left hown
    have hvalid : c.toNat.isValidChar := c.valid
    rcases inLastRange_of_gap hle hgap with ⟨hback, hbound⟩
    have hpointer : rangePointer c = pointerInLastRange c.toNat gb18030Ranges 0 := by
      rw [rangePointer, if_neg (by simpa only [beq_iff_eq] using hown)]
    rw [← hpointer] at hback hbound
    have hplace : ¬((39419 < rangePointer c ∧ rangePointer c < 189000) ∨
        1237575 < rangePointer c) := by
      rcases hvalid with hvalid | hvalid <;> omega
    have hother : ¬(rangePointer c == 7457) = true := by
      rw [beq_iff_eq]
      intro hsame
      -- That pointer belongs to a code point with a two-byte code, which is marked.
      rw [hsame] at hback
      have hpoint : inLastRange 7457 gb18030Ranges 0 = 0x1E3F := by decide
      rw [← hback, hpoint, Index.gb18030_checked.2.2.2.1] at hgap
      cases hgap
    refine ⟨?_, by omega⟩
    rw [rangeChar?, if_neg hplace, if_neg hother, hback, Char.ofNat_toNat]

/-- What has no code of its own: surrogates, which are no characters, two reserved characters, and
    those that are written with former codes. -/
theorem exists_of_uncoded {c : Char} {row : Row} (hrow : row ∈ uncoded) {p : Nat}
    (hp : row.pointer? c = some p) :
    c.toNat = 0xE5E5 ∨ c.toNat = 0xE7C7 ∨ ∃ bytes, (c.toNat, bytes) ∈ formerCodes := by
  rw [uncoded, List.mem_append, List.mem_map] at hrow
  rcases hrow with hreserved | ⟨⟨point, bytes⟩, hentry, rfl⟩
  · have hvalid : c.toNat.isValidChar := c.valid
    simp only [List.mem_cons, List.not_mem_nil, or_false] at hreserved
    rcases hreserved with rfl | rfl | rfl
    · have hin := Row.mem_of_pointer?_span hp
      rcases hvalid with hvalid | hvalid <;> omega
    · have hin := Row.mem_of_pointer?_span hp
      exact Or.inl (by omega)
    · have hin := Row.mem_of_pointer?_span hp
      exact Or.inr (Or.inl (by omega))
  · have hin := Row.mem_of_pointer?_span hp
    obtain rfl : c.toNat = point := by omega
    exact Or.inr (Or.inr ⟨bytes, hentry⟩)

/-- A character that is written by neither table is in no gap. -/
theorem testBit_marks {c : Char} (hreserved : c.toNat ≠ 0xE5E5)
    (hformer : formerCodes.lookup c.toNat = none) (hindex : Index.gb18030.pointer? c = none) :
    c.toNat = 0xE7C7 ∨ (marks Index.gb18030.rows (marks uncoded 0)).testBit c.toNat = false := by
  cases hbit : (marks Index.gb18030.rows (marks uncoded 0)).testBit c.toNat with
  | false => exact Or.inr rfl
  | true =>
      rcases Index.exists_pointer?_of_marks _ c _ hbit with hbit | ⟨p, hp⟩
      · rcases exists_mem_of_marks uncoded c 0 hbit with hzero | ⟨row, hrow, p, hp⟩
        · rw [Nat.zero_testBit] at hzero
          cases hzero
        · rcases exists_of_uncoded hrow hp with hno | hown | ⟨bytes, hentry⟩
          · exact absurd hno hreserved
          · exact Or.inl hown
          · have hnone := List.lookup_eq_none_iff.mp hformer _ hentry
            simp only [bne_self_eq_false, Bool.false_eq_true] at hnone
      · rw [hindex] at hp
        cases hp

/-! ## Reading -/

theorem step_start_ascii (b : UInt8) (h : b.toNat < 0x80) :
    decoder.step .start b = some (.start, [Char.ofNat b.toNat]) := by
  simp only [decoder, if_pos h]

theorem isLead_iff (b : Nat) : isLead b = true ↔ 0x81 ≤ b ∧ b ≤ 0xFE := by
  rw [isLead, Bool.and_eq_true, decide_eq_true_eq, decide_eq_true_eq]

theorem isDigit_iff (b : Nat) : isDigit b = true ↔ 0x30 ≤ b ∧ b ≤ 0x39 := by
  rw [isDigit, Bool.and_eq_true, decide_eq_true_eq, decide_eq_true_eq]

theorem isTrail_iff (b : Nat) :
    isTrail b = true ↔ 0x40 ≤ b ∧ b ≤ 0x7E ∨ 0x80 ≤ b ∧ b ≤ 0xFE := by
  rw [isTrail, Bool.or_eq_true, Bool.and_eq_true, Bool.and_eq_true, decide_eq_true_eq,
    decide_eq_true_eq, decide_eq_true_eq, decide_eq_true_eq]

theorem step_start_lead (b : UInt8) (h : isLead b.toNat = true) :
    decoder.step .start b = some (.one b.toNat, []) := by
  have hlead := (isLead_iff _).mp h
  have heuro : ¬(b.toNat == 0x80) = true := by
    rw [beq_iff_eq]
    omega
  simp only [decoder, if_neg (show ¬b.toNat < 0x80 by omega), if_neg heuro, if_pos h]

/-- A lead and a trail byte are read as the character at their pointer. -/
theorem reads_pair (lead trail : UInt8) (hlead : isLead lead.toNat = true)
    (htrail : isTrail trail.toNat = true) {c : Char}
    (hc : Index.gb18030.charAt? (pointerOf lead.toNat trail.toNat) = some c) :
    decoder.reads .start [lead, trail] = some (.start, [c]) := by
  have hdigit : ¬isDigit trail.toNat = true := by
    rw [isTrail_iff] at htrail
    rw [isDigit_iff]
    omega
  refine decoder.reads_two (step_start_lead lead hlead) ?_
  rw [pointerOf] at hc
  simp only [decoder, if_neg hdigit, if_pos htrail, hc, Option.map_some]

/-- The two bytes of a pointer are read as the character at that pointer. -/
theorem reads_bytesOf {c : Char} {p : Nat} (h : Index.gb18030.pointer? c = some p) :
    decoder.reads .start (bytesOf p) = some (.start, [c]) := by
  rcases Index.charAt?_of_pointer? Index.gb18030_checked.1 h with ⟨hchar, hlt⟩
  have hlead : (UInt8.ofNat (p / 190 + 0x81)).toNat = p / 190 + 0x81 :=
    UInt8.toNat_ofNat_of_lt' (show p / 190 + 0x81 < 256 by omega)
  have htrail := toNat_ofNat_add_ite (p % 190) 0x3F 0x40 0x41 (by split <;> omega)
  have hpointer : pointerOf (p / 190 + 0x81)
      (p % 190 + if p % 190 < 0x3F then 0x40 else 0x41) = p := by
    unfold pointerOf
    split <;> split <;> omega
  refine reads_pair _ _ ?_ ?_ ?_
  · rw [hlead, isLead_iff]
    omega
  · rw [htrail, isTrail_iff]
    split <;> omega
  · rw [hlead, htrail, hpointer]
    exact hchar

/-- The four bytes of a range pointer are read as the character of that pointer. -/
theorem reads_fourBytesOf {c : Char} {p : Nat} (hc : rangeChar? p = some c) (hp : p ≤ 1237575) :
    decoder.reads .start (fourBytesOf p) = some (.start, [c]) := by
  have h₁ : (UInt8.ofNat (p / 12600 + 0x81)).toNat = p / 12600 + 0x81 :=
    UInt8.toNat_ofNat_of_lt' (show p / 12600 + 0x81 < 256 by omega)
  have h₂ : (UInt8.ofNat (p / 1260 % 10 + 0x30)).toNat = p / 1260 % 10 + 0x30 :=
    UInt8.toNat_ofNat_of_lt' (show p / 1260 % 10 + 0x30 < 256 by omega)
  have h₃ : (UInt8.ofNat (p / 10 % 126 + 0x81)).toNat = p / 10 % 126 + 0x81 :=
    UInt8.toNat_ofNat_of_lt' (show p / 10 % 126 + 0x81 < 256 by omega)
  have h₄ : (UInt8.ofNat (p % 10 + 0x30)).toNat = p % 10 + 0x30 :=
    UInt8.toNat_ofNat_of_lt' (show p % 10 + 0x30 < 256 by omega)
  have hpointer : (p / 12600 + 0x81 - 0x81) * 12600 + (p / 1260 % 10 + 0x30 - 0x30) * 1260 +
      (p / 10 % 126 + 0x81 - 0x81) * 10 + (p % 10 + 0x30 - 0x30) = p := by omega
  -- The bytes alternate between the two kinds.
  have hstart : decoder.step .start (UInt8.ofNat (p / 12600 + 0x81)) =
      some (.one (p / 12600 + 0x81), []) := by
    rw [step_start_lead _ (by rw [h₁, isLead_iff]; omega), h₁]
  have hone : decoder.step (.one (p / 12600 + 0x81)) (UInt8.ofNat (p / 1260 % 10 + 0x30)) =
      some (.two (p / 12600 + 0x81) (p / 1260 % 10 + 0x30), []) := by
    simp only [decoder, h₂, if_pos ((isDigit_iff (p / 1260 % 10 + 0x30)).mpr (by omega))]
  have htwo : decoder.step (.two (p / 12600 + 0x81) (p / 1260 % 10 + 0x30))
      (UInt8.ofNat (p / 10 % 126 + 0x81)) =
      some (.three (p / 12600 + 0x81) (p / 1260 % 10 + 0x30) (p / 10 % 126 + 0x81), []) := by
    simp only [decoder, h₃, if_pos ((isLead_iff (p / 10 % 126 + 0x81)).mpr (by omega))]
  have hthree : decoder.step
      (.three (p / 12600 + 0x81) (p / 1260 % 10 + 0x30) (p / 10 % 126 + 0x81))
      (UInt8.ofNat (p % 10 + 0x30)) = some (.start, [c]) := by
    simp only [decoder, h₄, if_pos ((isDigit_iff (p % 10 + 0x30)).mpr (by omega)), hpointer, hc,
      Option.map_some]
  rw [fourBytesOf, decoder.reads_cons_of_step hstart, decoder.reads_cons_of_step hone,
    decoder.reads_two htwo hthree]
  rfl

/-! ## Whole texts -/

/-- A former code is read as the character that has it now. -/
theorem reads_former {c : Char} {block : List UInt8}
    (h : formerCodes.lookup c.toNat = some block) :
    decoder.reads .start block = some (.start, [readBack c]) := by
  rcases List.lookup_eq_some_iff.mp h with ⟨l₁, l₂, hcodes, _⟩
  have hentry : (c.toNat, block) ∈ formerCodes := by
    rw [hcodes]
    exact List.mem_append_right l₁ List.mem_cons_self
  have hagrees := List.all_eq_true.mp Index.gb18030_checked.2.1 _ hentry
  unfold formerAgrees at hagrees
  split at hagrees
  · rename_i lead trail point hblock hpoint
    simp only [Bool.and_eq_true, beq_iff_eq] at hagrees
    rcases hagrees with ⟨⟨hlead, htrail⟩, hlook⟩
    have hchar := Index.charAt?_of_lookAt? Index.gb18030_checked.1 hlook
    obtain rfl : block = [lead, trail] := hblock
    rw [readBack, hpoint]
    exact reads_pair lead trail hlead htrail hchar
  · cases hagrees

/-- Only characters with a former code are read back as others. -/
theorem readBack_of_lookup {c : Char} (h : formerCodes.lookup c.toNat = none) :
    readBack c = c := by
  have hkeys : formerReadings.map Prod.fst = formerCodes.map Prod.fst := rfl
  have hnone : formerReadings.lookup c.toNat = none := by
    rw [List.lookup_eq_none_iff] at h ⊢
    intro entry hentry
    have hmem : entry.1 ∈ formerCodes.map Prod.fst := hkeys ▸ List.mem_map_of_mem hentry
    rcases List.mem_map.mp hmem with ⟨code, hcode, hsame⟩
    rw [← hsame]
    exact h code hcode
  rw [readBack, hnone]

/-- No character below the private use area has a former code. -/
theorem lookup_formerCodes {c : Char} (h : c.toNat < 0xE000) :
    formerCodes.lookup c.toNat = none := by
  rw [List.lookup_eq_none_iff]
  intro entry hentry
  have hge : ∀ entry ∈ formerCodes, 0xE000 ≤ entry.1 := by decide
  have hle := hge entry hentry
  rw [bne_iff_ne]
  omega

/-- A byte of ASCII is read as its character, which is not folded. -/
theorem reads_ascii {c : Char} (h : c.toNat < 0x80) :
    decoder.reads .start [UInt8.ofNat c.toNat] = some (.start, [readBack c]) := by
  have hread := reads_byte step_start_ascii h (by decide)
  rw [Char.ofNat_toNat] at hread
  rw [readBack_of_lookup (lookup_formerCodes (by omega))]
  exact hread

/-- What is written for a text in GB 18030 is read, and only former codes as other characters. -/
theorem run_decoder (cs : List Char) (bs : List UInt8) (h : encoder.run cs = some bs) :
    decoder.run bs = some (cs.map readBack) := by
  refine Transducer.run_stateless_of_reads rfl (fun c block hblock => ?_) cs bs h
  by_cases hascii : c.toNat < 0x80
  · rw [if_pos hascii] at hblock
    cases hblock
    exact reads_ascii hascii
  rw [if_neg hascii] at hblock
  by_cases hreserved : (c.toNat == 0xE5E5) = true
  · rw [if_pos hreserved] at hblock
    cases hblock
  rw [if_neg hreserved] at hblock
  rw [beq_iff_eq] at hreserved
  cases hformer : formerCodes.lookup c.toNat with
  | some bytes =>
      rw [hformer] at hblock
      cases hblock
      exact reads_former hformer
  | none =>
      -- Everything else is read as itself, from two bytes if the index has it.
      rw [readBack_of_lookup hformer]
      cases hindex : Index.gb18030.pointer? c with
      | some p =>
          simp only [hformer, hindex, Option.some.injEq] at hblock
          rw [← hblock]
          exact reads_bytesOf hindex
      | none =>
          simp only [hformer, hindex, Option.some.injEq] at hblock
          rcases rangeChar?_rangePointer (by omega) (testBit_marks hreserved hformer hindex) with
            ⟨hchar, hbound⟩
          rw [← hblock]
          exact reads_fourBytesOf hchar hbound

end Gb18030

namespace Gbk

/-- What is written for a text in GBK is read, and only former codes as other characters. -/
theorem run_decoder (cs : List Char) (bs : List UInt8) (h : encoder.run cs = some bs) :
    Gb18030.decoder.run bs = some (cs.map Gb18030.readBack) := by
  refine Transducer.run_stateless_of_reads rfl (fun c block hblock => ?_) cs bs h
  by_cases hascii : c.toNat < 0x80
  · rw [if_pos hascii] at hblock
    cases hblock
    exact Gb18030.reads_ascii hascii
  rw [if_neg hascii] at hblock
  by_cases hreserved : (c.toNat == 0xE5E5) = true
  · rw [if_pos hreserved] at hblock
    cases hblock
  rw [if_neg hreserved] at hblock
  by_cases heuro : (c.toNat == 0x20AC) = true
  · rw [if_pos heuro] at hblock
    cases hblock
    rw [beq_iff_eq] at heuro
    rw [Gb18030.readBack_of_lookup (Gb18030.lookup_formerCodes (by omega))]
    obtain rfl : c = Char.ofNat 0x20AC := by rw [← heuro, Char.ofNat_toNat]
    exact Gb18030.decoder.reads_one rfl
  rw [if_neg heuro] at hblock
  cases hformer : Gb18030.formerCodes.lookup c.toNat with
  | some bytes =>
      rw [hformer] at hblock
      cases hblock
      exact Gb18030.reads_former hformer
  | none =>
      rw [Gb18030.readBack_of_lookup hformer]
      rw [hformer] at hblock
      rcases Option.map_eq_some_iff.mp hblock with ⟨p, hp, rfl⟩
      exact Gb18030.reads_bytesOf hp

end Gbk

end BufferFormat
