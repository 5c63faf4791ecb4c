import BufferFormat.Encoding.EucJp
import BufferFormat.Encoding.Iso2022Jp
import BufferFormat.Proofs.Encoding.Index

/-!
# Japanese encodings are read back as they fold

EUC-JP, Shift_JIS and ISO-2022-JP share one index, and what they write is always
read again. It need not be read as the same text. Where Japanese keyboards and
national standards have put one character in the place of another, the encoders
write both alike: the yen sign as the backslash, the overline as the tilde, the
minus sign as its full-width form. `Jis.readBack` says what a character is read
back as. In ISO-2022-JP the first two have a set of their own and are kept, but
half-width katakana are widened instead.

The index goes beyond the 94 rows of 94 that two seven-bit bytes can hold, for
the vendor rows of Shift_JIS. The other two write the first pointer of a
character, and `Index.jis0208_checked` says that it always fits. Shift_JIS has
room for all rows, but it reads a block of pointers as private use characters,
and the index has no runs in that block.

ISO-2022-JP is the one encoding here in which both machines remember something.
Between two characters the reader is in the set that the writer is in.

## Main definitions

* `Jis.readBack`: What a character is read back as.

## Theorems

* `Index.jis0208_checked`: What is evaluated on the index.
* `EucJp.run_decoder`, `ShiftJis.run_decoder`, `Iso2022Jp.run_decoder`: What is written is read
  back, character by character.
-/

namespace BufferFormat

/-- The runs of the index do not overlap and fit into two bytes of Shift_JIS, the first pointers of
    all characters fit into two seven-bit bytes, the block of private use is free, and there is no
    character of ASCII. -/
theorem Index.jis0208_checked :
    ascending 0 Index.jis0208.rows 11280 = true ∧ firstBelow 8836 Index.jis0208.rows 0 = true ∧
      avoids 8836 10716 Index.jis0208.rows = true ∧ high Index.jis0208.rows = true := by
  obtain ⟨rows, hlisted, hchecked⟩ : ∃ rows, Listed Index.jis0208 rows ∧
      ascending 0 rows 11280 = true ∧ firstBelow 8836 rows 0 = true ∧
      avoids 8836 10716 rows = true ∧ high rows = true := by
    -- Listing the index settles what the rows are, and only then they can be evaluated.
    apply Exists.intro
    apply And.intro
    · unfold Index.jis0208
      repeat apply Listed.append
      · unfold Index.jis0208From0
        repeat (first | exact .nil | apply Listed.chars | apply Listed.span)
      · unfold Index.jis0208From3744
        repeat (first | exact .nil | apply Listed.chars | apply Listed.span)
      · unfold Index.jis0208From6901
        repeat (first | exact .nil | apply Listed.chars | apply Listed.span)
    · decide +kernel
  rw [hlisted.rows_eq]
  exact hchecked

/-- The first pointer of a character fits into two seven-bit bytes and is read as the character. -/
theorem Index.jis0208_charAt? {c : Char} {p : Nat} (h : Index.jis0208.pointer? c = some p) :
    Index.jis0208.charAt? p = some c ∧ p < 8836 := by
  rcases Index.jis0208_checked with ⟨hascending, hfirst, _⟩
  exact ⟨(Index.charAt?_of_pointer? hascending h).1,
    Index.pointer?_lt_of_firstBelow hfirst (Nat.zero_testBit _) h⟩

namespace Jis

/-- What a character is read back as after it was written in EUC-JP or Shift_JIS. -/
def readBack (c : Char) : Char :=
  if c == yen then Char.ofNat 0x5C else if c == overline then Char.ofNat 0x7E else fold c

theorem fold_of_ne {c : Char} (h : c.toNat ≠ 0x2212) : fold c = c := by
  rw [fold, if_neg (by simpa only [beq_iff_eq] using h)]

/-- Characters up to 0x80 are not folded. -/
theorem readBack_of_le {c : Char} (h : c.toNat ≤ 0x80) : readBack c = c := by
  have hyen : ¬(c == yen) = true := by
    rw [beq_iff_eq]
    rintro rfl
    exact absurd h (by decide)
  have hoverline : ¬(c == overline) = true := by
    rw [beq_iff_eq]
    rintro rfl
    exact absurd h (by decide)
  rw [readBack, if_neg hyen, if_neg hoverline, fold_of_ne (by omega)]

theorem halfKatakana_iff (c : Char) :
    halfKatakana c = true ↔ 0xFF61 ≤ c.toNat ∧ c.toNat ≤ 0xFF9F := by
  rw [halfKatakana, Bool.and_eq_true, decide_eq_true_eq, decide_eq_true_eq]

/-- Half-width katakana are not folded. -/
theorem fold_of_halfKatakana {c : Char} (h : halfKatakana c = true) : fold c = c := by
  rw [halfKatakana_iff] at h
  exact fold_of_ne (by omega)

/-- EUC-JP and Shift_JIS write characters of the same kinds in the same order. A reader that reads
    back each kind reads back every text, and each character as what it folds to. -/
theorem run_of_kinds {d : Transducer UInt8 Char} {low : Char → Prop} [DecidablePred low]
    {katakana : Char → Option (List UInt8)} (indexed : Char → Option (List UInt8))
    (hle : ∀ c, low c → c.toNat ≤ 0x80) (hends : d.finish d.start = some [])
    (hlow : ∀ c, low c → d.reads d.start [UInt8.ofNat c.toNat] = some (d.start, [c]))
    (hyen : d.reads d.start [0x5C] = some (d.start, [Char.ofNat 0x5C]))
    (hoverline : d.reads d.start [0x7E] = some (d.start, [Char.ofNat 0x7E]))
    (hkatakana : ∀ c block, halfKatakana c = true → katakana c = some block →
      d.reads d.start block = some (d.start, [c]))
    (hindexed : ∀ c block, indexed c = some block → d.reads d.start block = some (d.start, [c]))
    (cs : List Char) (bs : List UInt8)
    (h : (Transducer.stateless fun c =>
      if low c then some [UInt8.ofNat c.toNat]
      else if c == yen then some [0x5C]
      else if c == overline then some [0x7E]
      else if halfKatakana c then katakana c
      else indexed (fold c)).run cs = some bs) :
    d.run bs = some (cs.map readBack) := by
  refine Transducer.run_stateless_of_reads hends (fun c block hblock => ?_) cs bs h
  -- The kinds are told apart in the order in which the writers do.
  by_cases hc : low c
  · rw [if_pos hc] at hblock
    cases hblock
    rw [readBack_of_le (hle c hc)]
    exact hlow c hc
  rw [if_neg hc] at hblock
  unfold readBack
  by_cases hcyen : (c == yen) = true
  · rw [if_pos hcyen] at hblock
    cases hblock
    rw [if_pos hcyen]
    exact hyen
  rw [if_neg hcyen] at hblock
  rw [if_neg hcyen]
  by_cases hcoverline : (c == overline) = true
  · rw [if_pos hcoverline] at hblock
    cases hblock
    rw [if_pos hcoverline]
    exact hoverline
  rw [if_neg hcoverline] at hblock
  rw [if_neg hcoverline]
  by_cases hhalf : halfKatakana c = true
  · rw [if_pos hhalf] at hblock
    rw [fold_of_halfKatakana hhalf]
    exact hkatakana c block hhalf hblock
  · rw [if_neg hhalf] at hblock
    exact hindexed (fold c) block hblock

end Jis

/-! ## EUC-JP -/

namespace EucJp

theorem step_start_ascii (b : UInt8) (h : b.toNat < 0x80) :
    decoder.step .start b = some (.start, [Char.ofNat b.toNat]) := by
  simp only [decoder, if_pos h]

theorem step_start_lead (b : UInt8) (h : b.toNat = 0x8E ∨ 0xA1 ≤ b.toNat ∧ b.toNat ≤ 0xFE) :
    decoder.step .start b = some (.lead b.toNat, []) := by
  have hlead : (b.toNat == 0x8E || b.toNat == 0x8F || isHigh b.toNat) = true := by
    simp only [isHigh, Bool.or_eq_true, beq_iff_eq, Bool.and_eq_true, decide_eq_true_eq]
    omega
  simp only [decoder, if_neg (show ¬b.toNat < 0x80 by omega), if_pos hlead]

theorem step_lead_katakana (b : UInt8) (h : 0xA1 ≤ b.toNat ∧ b.toNat ≤ 0xDF) :
    decoder.step (.lead 0x8E) b = some (.start, [Char.ofNat (0xFF61 + (b.toNat - 0xA1))]) := by
  have htrail : ((0x8E : Nat) == 0x8E && decide (0xA1 ≤ b.toNat) && decide (b.toNat ≤ 0xDF)) =
      true := by
    simp only [BEq.rfl, Bool.true_and, Bool.and_eq_true, decide_eq_true_eq]
    exact h
  simp only [decoder, if_pos htrail]

theorem step_lead_high (lead : Nat) (b : UInt8) (hlead : 0xA1 ≤ lead ∧ lead ≤ 0xFE)
    (hb : 0xA1 ≤ b.toNat ∧ b.toNat ≤ 0xFE) {c : Char}
    (hc : Index.jis0208.charAt? (pointerOf lead b.toNat) = some c) :
    decoder.step (.lead lead) b = some (.start, [c]) := by
  have hkatakana :
      ¬(lead == 0x8E && decide (0xA1 ≤ b.toNat) && decide (b.toNat ≤ 0xDF)) = true := by
    simp only [Bool.and_eq_true, beq_iff_eq, decide_eq_true_eq]
    omega
  have hsupplement : ¬(lead == 0x8F && isHigh b.toNat) = true := by
    simp only [Bool.and_eq_true, beq_iff_eq]
    omega
  have hhigh : (isHigh lead && isHigh b.toNat) = true := by
    simp only [isHigh, Bool.and_eq_true, decide_eq_true_eq]
    omega
  simp only [decoder, if_neg hkatakana, if_neg hsupplement, if_pos hhigh, hc, Option.map_some]

/-- A byte of ASCII is read as its character. -/
theorem reads_ascii {n : Nat} (h : n < 0x80) :
    decoder.reads .start [UInt8.ofNat n] = some (.start, [Char.ofNat n]) :=
  reads_byte step_start_ascii h (by decide)

/-- A half-width katakana is read as itself. -/
theorem reads_katakana {c : Char} (h : Jis.halfKatakana c = true) :
    decoder.reads .start [0x8E, UInt8.ofNat (0xA1 + (c.toNat - 0xFF61))] = some (.start, [c]) := by
  rw [Jis.halfKatakana_iff] at h
  have hbyte : (UInt8.ofNat (0xA1 + (c.toNat - 0xFF61))).toNat = 0xA1 + (c.toNat - 0xFF61) :=
    UInt8.toNat_ofNat_of_lt' (show 0xA1 + (c.toNat - 0xFF61) < 256 by omega)
  have hstep := step_lead_katakana (UInt8.ofNat (0xA1 + (c.toNat - 0xFF61))) (by omega)
  rw [hbyte, Nat.add_sub_cancel_left, Nat.add_sub_cancel' h.1, Char.ofNat_toNat] at hstep
  exact decoder.reads_two (step_start_lead 0x8E (Or.inl rfl)) hstep

/-- The two bytes of a pointer are read as the character at that pointer. -/
theorem reads_pointer {c : Char} {p : Nat} (h : Index.jis0208.pointer? c = some p) :
    decoder.reads .start [UInt8.ofNat (p / 94 + 0xA1), UInt8.ofNat (p % 94 + 0xA1)] =
      some (.start, [c]) := by
  rcases Index.jis0208_charAt? h with ⟨hchar, hlt⟩
  have hlead : (UInt8.ofNat (p / 94 + 0xA1)).toNat = p / 94 + 0xA1 :=
    UInt8.toNat_ofNat_of_lt' (show p / 94 + 0xA1 < 256 by omega)
  have htrail : (UInt8.ofNat (p % 94 + 0xA1)).toNat = p % 94 + 0xA1 :=
    UInt8.toNat_ofNat_of_lt' (show p % 94 + 0xA1 < 256 by omega)
  have hpointer : pointerOf (p / 94 + 0xA1) (p % 94 + 0xA1) = p := by
    unfold pointerOf
    omega
  refine decoder.reads_two (step_start_lead _ (Or.inr (by omega))) ?_
  rw [hlead]
  refine step_lead_high _ _ (by omega) (by omega) ?_
  rw [htrail, hpointer]
  exact hchar

/-- What is written for a text is read, and each character as what it folds to. -/
theorem run_decoder (cs : List Char) (bs : List UInt8) (h : encoder.run cs = some bs) :
    decoder.run bs = some (cs.map Jis.readBack) := by
  refine Jis.run_of_kinds (fun c => (Index.jis0208.pointer? c).map fun p =>
      [UInt8.ofNat (p / 94 + 0xA1), UInt8.ofNat (p % 94 + 0xA1)])
    (fun c hc => Nat.le_of_lt hc) rfl (fun c hc => ?_) (reads_ascii (by decide))
    (reads_ascii (by decide)) (fun c block hhalf hblock => ?_) (fun c block hblock => ?_) cs bs h
  · exact (reads_ascii hc).trans (by rw [Char.ofNat_toNat]; rfl)
  · cases hblock
    exact reads_katakana hhalf
  · rcases Option.map_eq_some_iff.mp hblock with ⟨p, hp, rfl⟩
    exact reads_pointer hp

end EucJp

/-! ## Shift_JIS -/

namespace ShiftJis

theorem step_start_ascii (b : UInt8) (h : b.toNat ≤ 0x80) :
    decoder.step none b = some (none, [Char.ofNat b.toNat]) := by
  simp only [decoder, if_pos h]

theorem step_start_katakana (b : UInt8) (h : 0xA1 ≤ b.toNat ∧ b.toNat ≤ 0xDF) :
    decoder.step none b = some (none, [Char.ofNat (0xFF61 + (b.toNat - 0xA1))]) := by
  simp only [decoder, if_neg (show ¬b.toNat ≤ 0x80 by omega), if_pos h]

theorem step_start_lead (b : UInt8) (h : isLead b.toNat = true) :
    decoder.step none b = some (some b.toNat, []) := by
  have hlead := h
  rw [isLead, Bool.or_eq_true, Bool.and_eq_true, Bool.and_eq_true, decide_eq_true_eq,
    decide_eq_true_eq, decide_eq_true_eq, decide_eq_true_eq] at hlead
  simp only [decoder, if_neg (show ¬b.toNat ≤ 0x80 by omega),
    if_neg (show ¬(0xA1 ≤ b.toNat ∧ b.toNat ≤ 0xDF) by omega), if_pos h]

theorem step_lead (lead : Nat) (b : UInt8) (h : isTrail b.toNat = true) {c : Char}
    (hc : charAt? (pointerOf lead b.toNat) = some c) :
    decoder.step (some lead) b = some (none, [c]) := by
  simp only [decoder, if_pos h, hc, Option.map_some]

/-- A byte up to 0x80 is read as its character. -/
theorem reads_ascii {n : Nat} (h : n ≤ 0x80) :
    decoder.reads none [UInt8.ofNat n] = some (none, [Char.ofNat n]) :=
  reads_byte (fun b hb => step_start_ascii b (Nat.le_of_lt_succ hb)) (Nat.lt_succ_of_le h)
    (by decide)

/-- A half-width katakana is read as itself. -/
theorem reads_katakana {c : Char} (h : Jis.halfKatakana c = true) :
    decoder.reads none [UInt8.ofNat (0xA1 + (c.toNat - 0xFF61))] = some (none, [c]) := by
  rw [Jis.halfKatakana_iff] at h
  have hbyte : (UInt8.ofNat (0xA1 + (c.toNat - 0xFF61))).toNat = 0xA1 + (c.toNat - 0xFF61) :=
    UInt8.toNat_ofNat_of_lt' (show 0xA1 + (c.toNat - 0xFF61) < 256 by omega)
  have hstep := step_start_katakana (UInt8.ofNat (0xA1 + (c.toNat - 0xFF61))) (by omega)
  rw [hbyte, Nat.add_sub_cancel_left, Nat.add_sub_cancel' h.1, Char.ofNat_toNat] at hstep
  exact decoder.reads_one hstep

/-- A pointer under which a character is written has that character, and two bytes. -/
theorem charAt?_of_pointer? {c : Char} {p : Nat} (h : pointer? c = some p) :
    charAt? p = some c ∧ p < 11280 := by
  rcases Index.jis0208_checked with ⟨hascending, _, havoids, _⟩
  rcases List.mem_filterMap.mp (List.mem_of_find?_eq_some h) with ⟨r, hr, hp⟩
  rcases Index.charAt?_of_mem_pointer? hascending hr hp with ⟨hchar, hlt⟩
  have hblock := Run.pointer?_of_avoids havoids hr hp
  refine ⟨?_, hlt⟩
  rw [charAt?, if_neg (by omega), hchar]

/-- The two bytes of a pointer are read as the character at that pointer. -/
theorem reads_bytesOf {c : Char} {p : Nat} (h : pointer? c = some p) :
    decoder.reads none (bytesOf p) = some (none, [c]) := by
  rcases charAt?_of_pointer? h with ⟨hchar, hlt⟩
  have hlead := toNat_ofNat_add_ite (p / 188) 0x1F 0x81 0xC1 (by split <;> omega)
  have htrail := toNat_ofNat_add_ite (p % 188) 0x3F 0x40 0x41 (by split <;> omega)
  have hisLead : isLead (p / 188 + if p / 188 < 0x1F then 0x81 else 0xC1) = true := by
    simp only [isLead, Bool.or_eq_true, Bool.and_eq_true, decide_eq_true_eq]
    split <;> omega
  have hisTrail : isTrail (p % 188 + if p % 188 < 0x3F then 0x40 else 0x41) = true := by
    simp only [isTrail, Bool.or_eq_true, Bool.and_eq_true, decide_eq_true_eq]
    split <;> omega
  have hpointer : pointerOf (p / 188 + if p / 188 < 0x1F then 0x81 else 0xC1)
      (p % 188 + if p % 188 < 0x3F then 0x40 else 0x41) = p := by
    unfold pointerOf
    split <;> split <;> split <;> split <;> omega
  refine decoder.reads_two (step_start_lead _ (by rw [hlead]; exact hisLead)) ?_
  rw [hlead]
  refine step_lead _ _ (by rw [htrail]; exact hisTrail) ?_
  rw [htrail, hpointer]
  exact hchar

/-- What is written for a text is read, and each character as what it folds to. -/
theorem run_decoder (cs : List Char) (bs : List UInt8) (h : encoder.run cs = some bs) :
    decoder.run bs = some (cs.map Jis.readBack) := by
  refine Jis.run_of_kinds (fun c => (pointer? c).map bytesOf) (fun c hc => hc) rfl
    (fun c hc => ?_) (reads_ascii (by decide)) (reads_ascii (by decide))
    (fun c block hhalf hblock => ?_) (fun c block hblock => ?_) cs bs h
  · exact (reads_ascii hc).trans (by rw [Char.ofNat_toNat]; rfl)
  · cases hblock
    exact reads_katakana hhalf
  · rcases Option.map_eq_some_iff.mp hblock with ⟨p, hp, rfl⟩
    exact reads_bytesOf hp

end ShiftJis

/-! ## ISO-2022-JP -/

namespace Iso2022Jp

/-- A reader between two characters. -/
def between (set : CharSet) (escaped : Bool) : Reader :=
  ⟨set, .between, escaped⟩

/-- An escape sequence between characters puts its set in force. It may not follow another one. -/
theorem reads_escapeTo (set target : CharSet) :
    decoder.reads (between set false) (escapeTo target) = some (between target true, []) := by
  cases target with
  | ascii => rfl
  | roman => rfl
  | katakana => rfl
  | jis0208 => rfl

/-- Where a set is put in force, what follows is read in that set. -/
theorem reads_switch_append {set target : CharSet} {block : List UInt8} {out : List Char}
    (h : ∀ escaped, decoder.reads (between target escaped) block =
      some (between target false, out)) :
    decoder.reads (between set false) (switch set target ++ block) =
      some (between target false, out) := by
  unfold switch
  by_cases hset : set = target
  · rw [if_pos hset, List.nil_append, hset]
    exact h false
  · rw [if_neg hset, decoder.reads_append _ block (reads_escapeTo set target), h true]
    rfl

/-- A byte that the set reads as a character. -/
theorem reads_read {set : CharSet} {b : UInt8} {c : Char} (hescape : b.toNat ≠ escapeByte)
    (hread : read set b.toNat = some (.between, [c])) (escaped : Bool) :
    decoder.reads (between set escaped) [b] = some (between set false, [c]) := by
  refine decoder.reads_one ?_
  have hno : ¬(b.toNat == escapeByte) = true := by simpa only [beq_iff_eq] using hescape
  simp only [decoder, between, if_neg hno, hread, Option.map_some]

theorem reads_ascii {n : Nat} (h : n < 0x80) (hout : n ≠ 0x0E) (hin : n ≠ 0x0F)
    (hescape : n ≠ escapeByte) (escaped : Bool) :
    decoder.reads (between .ascii escaped) [UInt8.ofNat n] =
      some (between .ascii false, [Char.ofNat n]) := by
  have hbyte : (UInt8.ofNat n).toNat = n := UInt8.toNat_ofNat_of_lt' (show n < 256 by omega)
  refine reads_read (by rw [hbyte]; exact hescape) ?_ escaped
  rw [hbyte, read, if_pos ⟨h, hout, hin⟩]

theorem reads_roman {n : Nat} (h : n < 0x80) (hout : n ≠ 0x0E) (hin : n ≠ 0x0F)
    (hescape : n ≠ escapeByte) (hyen : n ≠ 0x5C) (hoverline : n ≠ 0x7E) (escaped : Bool) :
    decoder.reads (between .roman escaped) [UInt8.ofNat n] =
      some (between .roman false, [Char.ofNat n]) := by
  have hbyte : (UInt8.ofNat n).toNat = n := UInt8.toNat_ofNat_of_lt' (show n < 256 by omega)
  refine reads_read (by rw [hbyte]; exact hescape) ?_ escaped
  rw [hbyte, read, if_neg (by simpa only [beq_iff_eq] using hyen),
    if_neg (by simpa only [beq_iff_eq] using hoverline), if_pos ⟨h, hout, hin⟩]

/-- The two bytes of a pointer are read as the character at that pointer. -/
theorem reads_pointer {c : Char} {p : Nat} (h : Index.jis0208.pointer? c = some p)
    (escaped : Bool) :
    decoder.reads (between .jis0208 escaped)
        [UInt8.ofNat (p / 94 + 0x21), UInt8.ofNat (p % 94 + 0x21)] =
      some (between .jis0208 false, [c]) := by
  rcases Index.jis0208_charAt? h with ⟨hchar, hlt⟩
  have hlead : (UInt8.ofNat (p / 94 + 0x21)).toNat = p / 94 + 0x21 :=
    UInt8.toNat_ofNat_of_lt' (show p / 94 + 0x21 < 256 by omega)
  have htrail : (UInt8.ofNat (p % 94 + 0x21)).toNat = p % 94 + 0x21 :=
    UInt8.toNat_ofNat_of_lt' (show p % 94 + 0x21 < 256 by omega)
  have hno : ¬(p / 94 + 0x21 == escapeByte) = true := by
    rw [beq_iff_eq, escapeByte]
    omega
  have hpointer : (p / 94 + 0x21 - 0x21) * 94 + (p % 94 + 0x21 - 0x21) = p := by omega
  have hfirst : decoder.step (between .jis0208 escaped) (UInt8.ofNat (p / 94 + 0x21)) =
      some (⟨.jis0208, .trail (p / 94 + 0x21), false⟩, []) := by
    simp only [decoder, between, hlead, if_neg hno, read, if_pos
      (show 0x21 ≤ p / 94 + 0x21 ∧ p / 94 + 0x21 ≤ 0x7E by omega), Option.map_some]
  refine decoder.reads_two hfirst ?_
  simp only [decoder, between, htrail, if_pos
    (show 0x21 ≤ p % 94 + 0x21 ∧ p % 94 + 0x21 ≤ 0x7E by omega), hpointer, hchar, Option.map_some]

/-- Characters of ASCII are not widened. -/
theorem widened_of_lt {c : Char} (h : c.toNat < 0x80) : widened c = c := by
  have hhalf : ¬Jis.halfKatakana c = true := by
    rw [Jis.halfKatakana_iff]
    omega
  rw [widened, if_neg hhalf, Jis.fold_of_ne (by omega)]

/-- A step of the writer is read in the set that it was in, and leaves the reader in the set that
    the writer is in now. -/
theorem reads_step {set next : CharSet} {c : Char} {block : List UInt8}
    (h : encoder.step set c = some (next, block)) :
    decoder.reads (between set false) block = some (between next false, [widened c]) := by
  simp only [encoder] at h
  by_cases hcontrol : (c.toNat == 0x0E || c.toNat == 0x0F || c.toNat == escapeByte) = true
  · rw [if_pos hcontrol] at h
    cases h
  rw [if_neg hcontrol] at h
  simp only [Bool.or_eq_true, beq_iff_eq, not_or] at hcontrol
  rcases hcontrol with ⟨⟨hout, hin⟩, hescape⟩
  by_cases hascii : c.toNat < 0x80
  · rw [if_pos hascii] at h
    rw [widened_of_lt hascii]
    by_cases hroman : set = .roman ∧ c.toNat ≠ 0x5C ∧ c.toNat ≠ 0x7E
    · rw [if_pos hroman] at h
      cases h
      rw [hroman.1]
      exact (reads_roman hascii hout hin hescape hroman.2.1 hroman.2.2 false).trans
        (by rw [Char.ofNat_toNat])
    · -- The two characters that the Roman set replaces make the writer go back to ASCII.
      rw [if_neg hroman] at h
      cases h
      exact (reads_switch_append (reads_ascii hascii hout hin hescape)).trans
        (by rw [Char.ofNat_toNat])
  rw [if_neg hascii] at h
  by_cases hyen : (c == Jis.yen) = true
  · rw [if_pos hyen] at h
    cases h
    rw [beq_iff_eq.mp hyen]
    exact reads_switch_append (reads_read (b := 0x5C) (by decide) rfl)
  rw [if_neg hyen] at h
  by_cases hoverline : (c == Jis.overline) = true
  · rw [if_pos hoverline] at h
    cases h
    rw [beq_iff_eq.mp hoverline]
    exact reads_switch_append (reads_read (b := 0x7E) (by decide) rfl)
  rw [if_neg hoverline] at h
  rcases Option.map_eq_some_iff.mp h with ⟨p, hp, heq⟩
  cases heq
  exact reads_switch_append (reads_pointer hp)

/-- What is written for a text is read, and each character as what it is widened to. -/
theorem run_decoder (cs : List Char) (bs : List UInt8) (h : encoder.run cs = some bs) :
    decoder.run bs = some (cs.map widened) := by
  refine Transducer.run_of_reads (fun set s => s = between set false) rfl ?_ ?_ cs bs h
  · rintro set _ c next block rfl hstep
    exact ⟨_, rfl, reads_step hstep⟩
  · rintro set _ block rfl hfinish
    cases hfinish
    -- A text ends in ASCII, which is no error for the reader in either case.
    cases set with
    | ascii => rfl
    | roman => rfl
    | katakana => rfl
    | jis0208 => rfl

end Iso2022Jp

end BufferFormat
