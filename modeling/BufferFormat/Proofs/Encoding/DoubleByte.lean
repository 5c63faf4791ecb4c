import BufferFormat.Encoding.Big5
import BufferFormat.Encoding.EucKr
import BufferFormat.Proofs.Encoding.Index

/-!
# Big5 and EUC-KR are read back

In Big5 and in EUC-KR a character is one byte of ASCII, or two bytes from an
index. Neither writes two characters alike, so every text that can be written is
read back as it was.

Big5 has codes for a letter with a combining mark, which are read as two
characters. They are never written, as they are in the rows that are only read.

## Theorems

* `Index.big5_checked`, `Index.eucKr_checked`: What is evaluated on the indexes.
* `run_of_pairs`: What both encodings have in common.
* `Big5.run_decoder`, `EucKr.run_decoder`: What is written is read back.
-/

namespace BufferFormat

/-- The runs of the index do not overlap and fit into two bytes, and none holds a character of
    ASCII. -/
theorem Index.big5_checked :
    ascending 0 Index.big5.rows 19782 = true ∧ high Index.big5.rows = true := by
  obtain ⟨rows, hlisted, hchecked⟩ : ∃ rows, Listed Index.big5 rows ∧
      ascending 0 rows 19782 = true ∧ high rows = true := by
    apply Exists.intro
    apply And.intro
    · unfold Index.big5
      repeat apply Listed.append
      · unfold Index.big5From942
        repeat (first | exact .nil | apply Listed.chars | apply Listed.span)
      · unfold Index.big5From3302
        repeat (first | exact .nil | apply Listed.chars | apply Listed.span)
      · unfold Index.big5From5338
        repeat (first | exact .nil | apply Listed.chars | apply Listed.span)
      · unfold Index.big5From8517
        repeat (first | exact .nil | apply Listed.chars | apply Listed.span)
      · unfold Index.big5From11617
        repeat (first | exact .nil | apply Listed.chars | apply Listed.span)
      · unfold Index.big5From14757
        repeat (first | exact .nil | apply Listed.chars | apply Listed.span)
      · unfold Index.big5From17897
        repeat (first | exact .nil | apply Listed.chars | apply Listed.span)
    · decide +kernel
  rw [hlisted.rows_eq]
  exact hchecked

/-- The same for the index of EUC-KR. -/
theorem Index.eucKr_checked :
    ascending 0 Index.eucKr.rows 23940 = true ∧ high Index.eucKr.rows = true := by
  obtain ⟨rows, hlisted, hchecked⟩ : ∃ rows, Listed Index.eucKr rows ∧
      ascending 0 rows 23940 = true ∧ high rows = true := by
    apply Exists.intro
    apply And.intro
    · unfold Index.eucKr
      repeat apply Listed.append
      · unfold Index.eucKrFrom0
        repeat (first | exact .nil | apply Listed.chars | apply Listed.span)
      · unfold Index.eucKrFrom3182
        repeat (first | exact .nil | apply Listed.chars | apply Listed.span)
      · unfold Index.eucKrFrom6334
        repeat (first | exact .nil | apply Listed.chars | apply Listed.span)
      · unfold Index.eucKrFrom9880
        repeat (first | exact .nil | apply Listed.chars | apply Listed.span)
      · unfold Index.eucKrFrom13062
        repeat (first | exact .nil | apply Listed.chars | apply Listed.span)
      · unfold Index.eucKrFrom19515
        repeat (first | exact .nil | apply Listed.chars | apply Listed.span)
    · decide +kernel
  rw [hlisted.rows_eq]
  exact hchecked

/-- Both encodings write a byte of ASCII or a pair of bytes. A reader that reads back the pairs
    reads back every text. -/
theorem run_of_pairs {d : Transducer UInt8 Char} {pairOf : Char → Option (List UInt8)}
    (hends : d.finish d.start = some [])
    (hascii : ∀ b : UInt8, b.toNat < 0x80 → d.step d.start b = some (d.start, [Char.ofNat b.toNat]))
    (hpair : ∀ c block, pairOf c = some block → d.reads d.start block = some (d.start, [c]))
    (cs : List Char) (bs : List UInt8)
    (h : (Transducer.stateless fun c =>
      if c.toNat < 0x80 then some [UInt8.ofNat c.toNat] else pairOf c).run cs = some bs) :
    d.run bs = some cs := by
  rw [← List.map_id cs]
  refine Transducer.run_stateless_of_reads hends (fun c block hblock => ?_) cs bs h
  by_cases hc : c.toNat < 0x80
  · rw [if_pos hc] at hblock
    cases hblock
    have hread := reads_byte hascii hc (by decide)
    rw [Char.ofNat_toNat] at hread
    exact hread
  · rw [if_neg hc] at hblock
    exact hpair c block hblock

/-! ## Big5 -/

namespace Big5

theorem step_start_ascii (b : UInt8) (h : b.toNat < 0x80) :
    decoder.step none b = some (none, [Char.ofNat b.toNat]) := by
  simp only [decoder, if_pos h]

theorem step_start_lead (b : UInt8) (h : 0x81 ≤ b.toNat ∧ b.toNat ≤ 0xFE) :
    decoder.step none b = some (some b.toNat, []) := by
  simp only [decoder, if_neg (show ¬b.toNat < 0x80 by omega), if_pos h]

/-- A character is written under a pointer of its index, and in a row that is not only read. -/
theorem exists_mem_of_pointer? {c : Char} {p : Nat} (h : pointer? c = some p) :
    5024 ≤ p ∧ ∃ r ∈ Index.big5, r.pointer? c = some p := by
  have hmem : p ∈ (Index.big5.filterMap (Run.pointer? c)).filter fun p =>
      (0xA1 - 0x81) * 157 ≤ p := by
    unfold pointer? at h
    by_cases hlast : writtenLast.contains c.toNat = true
    · simp only [if_pos hlast] at h
      exact List.mem_of_getLast? h
    · simp only [if_neg hlast] at h
      exact List.mem_of_head? h
  rcases List.mem_filter.mp hmem with ⟨hfound, hle⟩
  rcases List.mem_filterMap.mp hfound with ⟨r, hr, hp⟩
  exact ⟨of_decide_eq_true hle, r, hr, hp⟩

/-- The pointer under which a character is written has that character alone. -/
theorem charsAt?_of_pointer? {c : Char} {p : Nat} (h : pointer? c = some p) :
    charsAt? p = some [c] ∧ p < 19782 := by
  rcases exists_mem_of_pointer? h with ⟨hle, r, hr, hp⟩
  rcases Index.charAt?_of_mem_pointer? Index.big5_checked.1 hr hp with ⟨hchar, hlt⟩
  have hnone : pairs.lookup p = none := by
    rw [List.lookup_eq_none_iff]
    intro entry hentry
    have hbelow : ∀ entry ∈ pairs, entry.1 < 5024 := by decide
    have hlt := hbelow entry hentry
    rw [bne_iff_ne]
    omega
  refine ⟨?_, hlt⟩
  rw [charsAt?, hnone, hchar, Option.map_some]

/-- The two bytes of a pointer are read as the character at that pointer. -/
theorem reads_pointer {c : Char} {p : Nat} (h : pointer? c = some p) :
    decoder.reads none [UInt8.ofNat (p / 157 + 0x81),
      UInt8.ofNat (p % 157 + if p % 157 < 0x3F then 0x40 else 0x62)] = some (none, [c]) := by
  rcases charsAt?_of_pointer? h with ⟨hchars, hlt⟩
  have hlead : (UInt8.ofNat (p / 157 + 0x81)).toNat = p / 157 + 0x81 :=
    UInt8.toNat_ofNat_of_lt' (show p / 157 + 0x81 < 256 by omega)
  have htrail := toNat_ofNat_add_ite (p % 157) 0x3F 0x40 0x62 (by split <;> omega)
  have hrange : (0x40 ≤ p % 157 + (if p % 157 < 0x3F then 0x40 else 0x62) ∧
      p % 157 + (if p % 157 < 0x3F then 0x40 else 0x62) ≤ 0x7E) ∨
      (0xA1 ≤ p % 157 + (if p % 157 < 0x3F then 0x40 else 0x62) ∧
      p % 157 + (if p % 157 < 0x3F then 0x40 else 0x62) ≤ 0xFE) := by
    split <;> omega
  have hpointer : (p / 157 + 0x81 - 0x81) * 157 +
      (p % 157 + (if p % 157 < 0x3F then 0x40 else 0x62) -
        if p % 157 + (if p % 157 < 0x3F then 0x40 else 0x62) < 0x7F then 0x40 else 0x62) = p := by
    split <;> split <;> omega
  refine decoder.reads_two (step_start_lead _ (by omega)) ?_
  rw [hlead]
  simp only [decoder, htrail, if_pos hrange, hpointer, hchars, Option.map_some]

/-- What is written for a text is read as the text. -/
theorem run_decoder (cs : List Char) (bs : List UInt8) (h : encoder.run cs = some bs) :
    decoder.run bs = some cs := by
  refine run_of_pairs rfl step_start_ascii (fun c block hblock => ?_) cs bs h
  rcases Option.map_eq_some_iff.mp hblock with ⟨p, hp, rfl⟩
  exact reads_pointer hp

end Big5

/-! ## EUC-KR -/

namespace EucKr

theorem step_start_ascii (b : UInt8) (h : b.toNat < 0x80) :
    decoder.step none b = some (none, [Char.ofNat b.toNat]) := by
  simp only [decoder, if_pos h]

theorem step_start_lead (b : UInt8) (h : 0x81 ≤ b.toNat ∧ b.toNat ≤ 0xFE) :
    decoder.step none b = some (some b.toNat, []) := by
  simp only [decoder, if_neg (show ¬b.toNat < 0x80 by omega), if_pos h]

/-- The two bytes of a pointer are read as the character at that pointer. -/
theorem reads_pointer {c : Char} {p : Nat} (h : Index.eucKr.pointer? c = some p) :
    decoder.reads none [UInt8.ofNat (p / 190 + 0x81), UInt8.ofNat (p % 190 + 0x41)] =
      some (none, [c]) := by
  rcases Index.charAt?_of_pointer? Index.eucKr_checked.1 h with ⟨hchar, hlt⟩
  have hlead : (UInt8.ofNat (p / 190 + 0x81)).toNat = p / 190 + 0x81 :=
    UInt8.toNat_ofNat_of_lt' (show p / 190 + 0x81 < 256 by omega)
  have htrail : (UInt8.ofNat (p % 190 + 0x41)).toNat = p % 190 + 0x41 :=
    UInt8.toNat_ofNat_of_lt' (show p % 190 + 0x41 < 256 by omega)
  have hpointer : (p / 190 + 0x81 - 0x81) * 190 + (p % 190 + 0x41 - 0x41) = p := by omega
  refine decoder.reads_two (step_start_lead _ (by omega)) ?_
  rw [hlead]
  simp only [decoder, htrail, if_pos (show 0x41 ≤ p % 190 + 0x41 ∧ p % 190 + 0x41 ≤ 0xFE by omega),
    hpointer, hchar, Option.map_some]

/-- What is written for a text is read as the text. -/
theorem run_decoder (cs : List Char) (bs : List UInt8) (h : encoder.run cs = some bs) :
    decoder.run bs = some cs := by
  refine run_of_pairs rfl step_start_ascii (fun c block hblock => ?_) cs bs h
  rcases Option.map_eq_some_iff.mp hblock with ⟨p, hp, rfl⟩
  exact reads_pointer hp

end EucKr

end BufferFormat
