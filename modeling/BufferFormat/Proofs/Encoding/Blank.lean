import BufferFormat.Proofs.Encoding.DoubleByte
import BufferFormat.Proofs.Encoding.Gb18030
import BufferFormat.Proofs.Encoding.Japanese
import BufferFormat.Proofs.Encoding.RoundTrip
import BufferFormat.Text.Blank

/-!
# What a byte-wise test sees

Whether a diff is empty is asked of its bytes, before they are decoded. A test
that knows no encoding can only look for the five blanks of ASCII, and the
question is what it says about the text.

For most encodings it says something plain. They extend ASCII: between two
characters a byte of ASCII is a character, and whatever is read otherwise ends in
a character beyond ASCII. `ExtendsAscii` is this in terms of single steps, and an
induction on the input gives that the bytes are blank exactly if all characters
are blanks of ASCII. It does not matter that bytes of ASCII also occur inside of
characters, as the byte before them was none.

Three encodings are left. UTF-8 extends ASCII as well, but its decoder has states
that no input leads to, so that the bytes of its characters are the better way to
see it. In UTF-16 every character of ASCII has a byte of zeros, which is no
blank, and the characters that consist of blank bytes are others, few of them
blank. In ISO-2022-JP an escape sequence stands for no character at all.

## Main definitions

* `isPlainBlank`: The characters of ASCII that a byte-wise test takes for blanks.
* `ExtendsAscii`: A decoder that takes bytes of ASCII between characters as characters.
* `Gb18030.highRanges`: The four-byte ranges hold characters beyond ASCII.
* `Encoding.looksBlank`: The characters of which all bytes are blank.
* `Encoding.Escapes`: Bytes with an escape sequence.

## Theorems

* `isPlainBlank_iff`: How they differ from the characters that are blank.
* `ExtendsAscii.all_isBlankByte_iff`: What blank bytes mean to such a decoder.
* `Gb18030.isValidChar_inLastRange`: Four-byte codes are codes of characters beyond ASCII.
* `Encoding.looksBlank_eq_isBlank`, `Encoding.looksBlank_utf16_of_lt`: Which characters of ASCII
  look blank.
* `Encoding.all_isBlankByte_iff`: What blank bytes mean in every encoding.
-/

namespace BufferFormat

namespace Text

/-- The characters of ASCII that a byte-wise test takes for blanks. -/
def isPlainBlank (c : Char) : Bool :=
  c.toNat < 0x80 && isBlankByte (UInt8.ofNat c.toNat)

theorem isPlainBlank_of_le {c : Char} (h : 0x80 ≤ c.toNat) : isPlainBlank c = false := by
  rw [isPlainBlank, decide_eq_false (Nat.not_lt.mpr h), Bool.false_and]

/-- A byte of ASCII is as blank as its character. -/
theorem isPlainBlank_ofNat {b : UInt8} (h : b.toNat < 0x80) :
    isPlainBlank (Char.ofNat b.toNat) = isBlankByte b := by
  rw [isPlainBlank, toNat_ofNat _ (Or.inl (by omega)), decide_eq_true h, Bool.true_and,
    UInt8.ofNat_toNat]

/-- A blank byte is one of ASCII. -/
theorem isBlankByte_of_le {b : UInt8} (h : 0x80 ≤ b.toNat) : isBlankByte b = false := by
  cases hblank : isBlankByte b with
  | false => rfl
  | true =>
      simp only [isBlankByte, Bool.or_eq_true, beq_iff_eq] at hblank
      rcases hblank with (((rfl | rfl) | rfl) | rfl) | rfl <;> exact absurd h (by decide)

/-- The blanks of ASCII are those of Unicode but for the vertical tab. -/
theorem isPlainBlank_iff (c : Char) :
    isPlainBlank c = true ↔ isBlank c = true ∧ c.toNat < 0x80 ∧ c.toNat ≠ 0x0B := by
  by_cases hc : c.toNat < 0x80
  · have hbyte : (UInt8.ofNat c.toNat).toNat = c.toNat :=
      UInt8.toNat_ofNat_of_lt' (show c.toNat < 256 by omega)
    simp only [isPlainBlank, isBlankByte, isBlank, Bool.and_eq_true, Bool.or_eq_true, beq_iff_eq,
      decide_eq_true_eq, ← UInt8.toNat_inj, hbyte, UInt8.reduceToNat]
    omega
  · rw [isPlainBlank_of_le (Nat.le_of_not_lt hc)]
    exact iff_of_false Bool.false_ne_true fun h => hc h.2.1

end Text

open Text

/-! ## Encodings that extend ASCII -/

/-- Between two characters a byte of ASCII stands for itself, and what is read otherwise either
    leaves a character open or ends in one beyond ASCII. Where a character is open, the input must
    not end. -/
structure Transducer.ExtendsAscii (d : Transducer UInt8 Char) : Prop where
  ascii : ∀ b : UInt8, b.toNat < 0x80 → d.step d.start b = some (d.start, [Char.ofNat b.toNat])
  beyond : ∀ q b q' out, (q = d.start → 0x80 ≤ b.toNat) → d.step q b = some (q', out) →
    q' ≠ d.start ∨ ∃ c ∈ out, 0x80 ≤ c.toNat
  ends : ∀ q out, d.finish q = some out → q = d.start ∧ out = []

namespace Transducer.ExtendsAscii

variable {d : Transducer UInt8 Char}

/-- What is read in the middle of a character holds a character beyond ASCII. From its start on, a
    decoder reads blanks of ASCII exactly for blank bytes. The two are one induction on the input,
    as the one leads to the other. -/
theorem outputFrom_blank (hd : d.ExtendsAscii) (input : List UInt8) :
    ∀ (q : d.State) (text : List Char), d.outputFrom q input = some text →
      (q ≠ d.start → ∃ c ∈ text, isPlainBlank c = false) ∧
        (q = d.start → (input.all isBlankByte = true ↔ ∀ c ∈ text, isPlainBlank c = true)) := by
  induction input with
  | nil =>
      intro q text h
      rcases hd.ends q text h with ⟨hq, rfl⟩
      exact ⟨fun hopen => absurd hq hopen, fun _ => iff_of_true rfl (List.forall_mem_nil _)⟩
  | cons b rest ih =>
      intro q text h
      rcases hstep : d.step q b with _ | ⟨q', out⟩
      · simp only [outputFrom, hstep, reduceCtorEq] at h
      rw [outputFrom_cons_of_step d q q' b out rest hstep] at h
      rcases Option.map_eq_some_iff.mp h with ⟨tail, htail, rfl⟩
      rcases ih q' tail htail with ⟨ihopen, ihstart⟩
      -- A step that reads no character of ASCII leads to one that is no blank of it.
      have hshown : (q = d.start → 0x80 ≤ b.toNat) → ∃ c ∈ out ++ tail, isPlainBlank c = false := by
        intro hb
        rcases hd.beyond q b q' out hb hstep with hopen | ⟨c, hc, hle⟩
        · rcases ihopen hopen with ⟨c, hc, hblank⟩
          exact ⟨c, List.mem_append_right _ hc, hblank⟩
        · exact ⟨c, List.mem_append_left _ hc, isPlainBlank_of_le hle⟩
      refine ⟨fun hopen => hshown fun hq => absurd hq hopen, ?_⟩
      rintro rfl
      by_cases hb : b.toNat < 0x80
      · rw [hd.ascii b hb] at hstep
        cases hstep
        rw [List.all_cons, Bool.and_eq_true, List.singleton_append, List.forall_mem_cons,
          isPlainBlank_ofNat hb, ihstart rfl]
      · have hb := Nat.le_of_not_lt hb
        rcases hshown fun _ => hb with ⟨c, hc, hblank⟩
        rw [List.all_cons, isBlankByte_of_le hb, Bool.false_and]
        exact iff_of_false Bool.false_ne_true fun hall => by
          rw [hall c hc] at hblank
          cases hblank

theorem all_isBlankByte_iff (hd : d.ExtendsAscii) {input : List UInt8} {text : List Char}
    (h : d.run input = some text) :
    input.all isBlankByte = true ↔ ∀ c ∈ text, isPlainBlank c = true := by
  rw [run_eq_outputFrom] at h
  exact (hd.outputFrom_blank input d.start text h).2 rfl

end Transducer.ExtendsAscii

/-- Where a character is answered at once, it counts whether it is beyond ASCII. -/
theorem Transducer.beyond_of_map {State : Type} {q q' start : State} {found : Option Char}
    {out : List Char} (h : (found.map fun c => (q, [c])) = some (q', out))
    (hfound : ∀ c, found = some c → 0x80 ≤ c.toNat) :
    q' ≠ start ∨ ∃ c ∈ out, 0x80 ≤ c.toNat := by
  rcases Option.map_eq_some_iff.mp h with ⟨c, hc, heq⟩
  cases heq
  exact Or.inr ⟨c, List.mem_singleton_self c, hfound c hc⟩

/-- A reader with one open state for each lead byte lets the input end between characters. -/
theorem Transducer.eq_none_of_finish {q : Option Nat} {out : List Char}
    (h : (if q.isNone then some [] else none) = some out) : q = none ∧ out = [] := by
  cases q with
  | none => exact ⟨rfl, (Option.some.inj h).symm⟩
  | some lead => cases h

open Transducer

theorem EucKr.decoder_extendsAscii : EucKr.decoder.ExtendsAscii where
  ascii := step_start_ascii
  beyond := by
    rintro (_ | lead) b q' out hb hstep
    · simp only [decoder, if_neg (Nat.not_lt.mpr (hb rfl))] at hstep
      split at hstep
      · cases hstep
        exact Or.inl fun hstart => by cases hstart
      · cases hstep
    · simp only [decoder] at hstep
      split at hstep
      · exact beyond_of_map hstep fun c hc => Index.le_of_charAt? Index.eucKr_checked.2 hc
      · cases hstep
  ends := fun _ _ h => eq_none_of_finish h

namespace Big5

theorem exists_le_of_charsAt? {p : Nat} {cs : List Char} (h : charsAt? p = some cs) :
    ∃ c ∈ cs, 0x80 ≤ c.toNat := by
  rw [charsAt?] at h
  split at h
  · rename_i points hpoints
    cases h
    -- The letters of the four pairs are beyond ASCII.
    have hpairs : (pairs.all fun entry =>
        (entry.2.map Char.ofNat).any fun c => 0x80 ≤ c.toNat) = true := by decide
    rcases List.lookup_eq_some_iff.mp hpoints with ⟨before, after, hsplit, _⟩
    have hmem : (p, points) ∈ pairs := hsplit ▸ List.mem_append_right before List.mem_cons_self
    rcases List.any_eq_true.mp (List.all_eq_true.mp hpairs _ hmem) with ⟨c, hc, hle⟩
    exact ⟨c, hc, of_decide_eq_true hle⟩
  · rcases Option.map_eq_some_iff.mp h with ⟨c, hc, rfl⟩
    exact ⟨c, List.mem_singleton_self c, Index.le_of_charAt? Index.big5_checked.2 hc⟩

theorem decoder_extendsAscii : decoder.ExtendsAscii where
  ascii := step_start_ascii
  beyond := by
    rintro (_ | lead) b q' out hb hstep
    · simp only [decoder, if_neg (Nat.not_lt.mpr (hb rfl))] at hstep
      split at hstep
      · cases hstep
        exact Or.inl fun hstart => by cases hstart
      · cases hstep
    · simp only [decoder] at hstep
      split at hstep
      · rcases Option.map_eq_some_iff.mp hstep with ⟨cs, hcs, heq⟩
        cases heq
        exact Or.inr (exists_le_of_charsAt? hcs)
      · cases hstep
  ends := fun _ _ h => eq_none_of_finish h

end Big5

namespace ShiftJis

theorem le_of_charAt? {p : Nat} {c : Char} (h : charAt? p = some c) : 0x80 ≤ c.toNat := by
  rw [charAt?] at h
  split at h
  · rename_i hblock
    rw [← Option.some.inj h, toNat_ofNat _ (Or.inr ⟨by omega, by omega⟩)]
    omega
  · exact Index.le_of_charAt? Index.jis0208_checked.2.2.2 h

theorem decoder_extendsAscii : decoder.ExtendsAscii where
  ascii := fun b hb => step_start_ascii b (Nat.le_of_lt hb)
  beyond := by
    rintro (_ | lead) b q' out hb hstep
    · simp only [decoder] at hstep
      split at hstep
      · -- One byte beyond ASCII stands for itself as well.
        rename_i hlow
        cases hstep
        refine Or.inr ⟨_, List.mem_singleton_self _, ?_⟩
        rw [toNat_ofNat _ (Or.inl (by omega))]
        exact hb rfl
      split at hstep
      · rename_i hkatakana
        cases hstep
        refine Or.inr ⟨_, List.mem_singleton_self _, ?_⟩
        rw [toNat_ofNat _ (Or.inr ⟨by omega, by omega⟩)]
        omega
      split at hstep
      · cases hstep
        exact Or.inl fun hstart => by cases hstart
      · cases hstep
    · simp only [decoder] at hstep
      split at hstep
      · exact beyond_of_map hstep fun c hc => le_of_charAt? hc
      · cases hstep
  ends := fun _ _ h => eq_none_of_finish h

end ShiftJis

/-- The supplementary index is only read, and this is all that matters about it. -/
theorem Index.jis0212_checked : high Index.jis0212.rows = true := by
  obtain ⟨rows, hlisted, hchecked⟩ : ∃ rows, Listed Index.jis0212 rows ∧ high rows = true := by
    apply Exists.intro
    apply And.intro
    · unfold Index.jis0212
      repeat apply Listed.append
      · unfold Index.jis0212From108
        repeat (first | exact .nil | apply Listed.chars | apply Listed.span)
      · unfold Index.jis0212From3799
        repeat (first | exact .nil | apply Listed.chars | apply Listed.span)
      · unfold Index.jis0212From6940
        repeat (first | exact .nil | apply Listed.chars | apply Listed.span)
    · decide +kernel
  rw [hlisted.rows_eq]
  exact hchecked

namespace EucJp

theorem decoder_extendsAscii : decoder.ExtendsAscii where
  ascii := step_start_ascii
  beyond := by
    rintro (_ | lead | lead) b q' out hb hstep
    · simp only [decoder, if_neg (Nat.not_lt.mpr (hb rfl))] at hstep
      split at hstep
      · cases hstep
        exact Or.inl fun hstart => by cases hstart
      · cases hstep
    · simp only [decoder] at hstep
      split at hstep
      · rename_i hkatakana
        cases hstep
        refine Or.inr ⟨_, List.mem_singleton_self _, ?_⟩
        simp only [Bool.and_eq_true, decide_eq_true_eq] at hkatakana
        rw [toNat_ofNat _ (Or.inr ⟨by omega, by omega⟩)]
        omega
      split at hstep
      · cases hstep
        exact Or.inl fun hstart => by cases hstart
      split at hstep
      · exact beyond_of_map hstep fun c hc => Index.le_of_charAt? Index.jis0208_checked.2.2.2 hc
      · cases hstep
    · simp only [decoder] at hstep
      split at hstep
      · exact beyond_of_map hstep fun c hc => Index.le_of_charAt? Index.jis0212_checked hc
      · cases hstep
  ends := by
    rintro (_ | lead | lead) out h
    · exact ⟨rfl, (Option.some.inj h).symm⟩
    · cases h
    · cases h

end EucJp

namespace Gb18030

/-- Every range holds characters beyond ASCII up to where the next one starts, and the last one up
    to pointer `stop`. -/
def highRanges (stop : Nat) : List (Nat × Nat) → Bool
  | [] => true
  | [(first, point)] => highRange first point stop
  | (first, point) :: (first', point') :: rest =>
    highRange first point first' && highRanges stop ((first', point') :: rest)
where
  /-- The code points of a range are neither ASCII nor surrogates. -/
  highRange (first point stop : Nat) : Bool :=
    0x80 ≤ point && (point + (stop - first) ≤ 0xD800 ||
      0xE000 ≤ point && point + (stop - first) ≤ 0x110000)

theorem isValidChar_of_highRange {first point stop p : Nat}
    (h : highRanges.highRange first point stop = true) (hfirst : first ≤ p) (hstop : p < stop) :
    0x80 ≤ point + (p - first) ∧ (point + (p - first)).isValidChar := by
  simp only [highRanges.highRange, Bool.and_eq_true, Bool.or_eq_true, decide_eq_true_eq] at h
  refine ⟨by omega, ?_⟩
  rcases h.2 with hlow | ⟨hhigh, hmax⟩
  · exact Or.inl (by omega)
  · exact Or.inr ⟨by omega, by omega⟩

/-- A pointer in such ranges is that of a character beyond ASCII. The induction follows the search
    for the last range that starts in time. -/
theorem isValidChar_inLastRange {stop p : Nat} (hstop : p < stop) (ranges : List (Nat × Nat)) :
    ∀ first point found : Nat, highRanges stop ((first, point) :: ranges) = true → first ≤ p →
      0x80 ≤ inLastRange p ((first, point) :: ranges) found ∧
        (inLastRange p ((first, point) :: ranges) found).isValidChar := by
  induction ranges with
  | nil =>
      intro first point found h hfirst
      rw [inLastRange, if_pos hfirst, inLastRange]
      exact isValidChar_of_highRange h hfirst hstop
  | cons range ranges ih =>
      intro first point found h hfirst
      rcases range with ⟨first', point'⟩
      rw [highRanges, Bool.and_eq_true] at h
      rw [inLastRange, if_pos hfirst]
      by_cases hnext : first' ≤ p
      · exact ih first' point' _ h.2 hnext
      · rw [inLastRange, if_neg hnext]
        exact isValidChar_of_highRange h.1 hfirst (Nat.lt_of_not_le hnext)

theorem le_of_rangeChar? {p : Nat} {c : Char} (h : rangeChar? p = some c) : 0x80 ≤ c.toNat := by
  have hchecked : highRanges 1237576 gb18030Ranges = true := by decide +kernel
  obtain ⟨ranges, hranges⟩ : ∃ ranges, gb18030Ranges = (0, 0x80) :: ranges := ⟨_, rfl⟩
  rw [rangeChar?] at h
  split at h
  · cases h
  rename_i hplace
  split at h
  · rw [← Option.some.inj h]
    decide
  · rw [hranges] at h hchecked
    rcases isValidChar_inLastRange (show p < 1237576 by omega) ranges 0 0x80 0 hchecked
      (Nat.zero_le p) with ⟨hle, hvalid⟩
    rw [← Option.some.inj h, toNat_ofNat _ hvalid]
    exact hle

theorem decoder_extendsAscii : decoder.ExtendsAscii where
  ascii := step_start_ascii
  beyond := by
    rintro (_ | b₁ | ⟨b₁, b₂⟩ | ⟨b₁, b₂, b₃⟩) b q' out hb hstep
    · simp only [decoder, if_neg (Nat.not_lt.mpr (hb rfl))] at hstep
      split at hstep
      · cases hstep
        exact Or.inr ⟨_, List.mem_singleton_self _, by decide⟩
      split at hstep
      · cases hstep
        exact Or.inl fun hstart => by cases hstart
      · cases hstep
    · simp only [decoder] at hstep
      split at hstep
      · cases hstep
        exact Or.inl fun hstart => by cases hstart
      split at hstep
      · exact beyond_of_map hstep fun c hc => Index.le_of_charAt? Index.gb18030_checked.2.2.2.2 hc
      · cases hstep
    · simp only [decoder] at hstep
      split at hstep
      · cases hstep
        exact Or.inl fun hstart => by cases hstart
      · cases hstep
    · simp only [decoder] at hstep
      split at hstep
      · exact beyond_of_map hstep fun c hc => le_of_rangeChar? hc
      · cases hstep
  ends := by
    intro q out h
    simp only [decoder] at h
    split at h
    · rename_i hq
      exact ⟨hq, (Option.some.inj h).symm⟩
    · cases h

end Gb18030

/-- A table for single bytes extends ASCII if it takes bytes of ASCII as characters and all others
    as characters beyond. -/
theorem Transducer.extendsAscii_of_table (g : UInt8 → Option Char)
    (hlow : ∀ b : UInt8, b.toNat < 0x80 → g b = some (Char.ofNat b.toNat))
    (hhigh : ∀ (b : UInt8) (c : Char), 0x80 ≤ b.toNat → g b = some c → 0x80 ≤ c.toNat) :
    (stateless fun b => (g b).map ([·])).ExtendsAscii where
  ascii := by
    intro b hb
    simp only [stateless, hlow b hb, Option.map_some]
  beyond := by
    intro q b q' out hb hstep
    simp only [stateless, Option.map_map] at hstep
    exact beyond_of_map hstep fun c hc => hhigh b c (hb rfl) hc
  ends := fun _ _ h => ⟨rfl, (Option.some.inj h).symm⟩

theorem CodePage.decoder_extendsAscii (page : CodePage) : page.decoder.ExtendsAscii := by
  refine extendsAscii_of_table page.charOf? page.charOf?_of_lt fun b c hb hc => ?_
  rcases (page.charOf?_of_le b c hb).mp hc with ⟨hzero, hget⟩
  have hrange := (upper_isTable page).point_range _ (List.mem_of_getElem? hget)
  exact (hrange.resolve_left hzero).1

theorem UserDefined.decoder_extendsAscii : UserDefined.decoder.ExtendsAscii := by
  refine extendsAscii_of_table (fun b => some (charOf b)) (fun b hb => ?_) fun b c hb hc => ?_
  · rw [charOf, if_pos hb]
  · rw [← Option.some.inj hc, toNat_charOf, if_neg (Nat.not_lt.mpr hb)]
    omega

/-! ## The others -/

/-- The bytes of a character in UTF-8 are blank exactly if it is one byte and a blank. -/
theorem Utf8.all_isBlankByte_encodeChar (c : Char) :
    (String.utf8EncodeChar c).all isBlankByte = isPlainBlank c := by
  by_cases hc : c.toNat < 0x80
  · rw [← Char.ofNat_toNat c, encodeChar_one c.toNat hc, Char.ofNat_toNat, List.all_cons,
      List.all_nil, Bool.and_true, isPlainBlank, decide_eq_true hc, Bool.true_and]
  · have hc := Nat.le_of_not_lt hc
    rcases exists_head_encodeChar_of_le hc with ⟨b, tail, hbytes, hb⟩
    rw [hbytes, List.all_cons, isBlankByte_of_le (by omega), Bool.false_and, isPlainBlank_of_le hc]

/-- Without an escape sequence, ISO-2022-JP is ASCII. -/
theorem Iso2022Jp.outputFrom_blank (input : List UInt8) :
    ∀ text : List Char, (0x1B : UInt8) ∉ input →
      decoder.outputFrom decoder.start input = some text →
      (input.all isBlankByte = true ↔ ∀ c ∈ text, isPlainBlank c = true) := by
  induction input with
  | nil =>
      intro text _ h
      cases h
      exact iff_of_true rfl (List.forall_mem_nil _)
  | cons b rest ih =>
      intro text hnot h
      rw [List.mem_cons, not_or] at hnot
      have hno : ¬(b.toNat == escapeByte) = true := by
        rw [beq_iff_eq]
        exact fun hb => hnot.1 (UInt8.toNat_inj.mp hb.symm)
      by_cases hb : b.toNat < 0x80 ∧ b.toNat ≠ 0x0E ∧ b.toNat ≠ 0x0F
      · have hstep : decoder.step decoder.start b =
            some (decoder.start, [Char.ofNat b.toNat]) := by
          simp only [decoder, if_neg hno, read, if_pos hb, Option.map_some]
        rw [Transducer.outputFrom_cons_of_step _ _ _ _ _ _ hstep] at h
        rcases Option.map_eq_some_iff.mp h with ⟨tail, htail, rfl⟩
        rw [List.all_cons, Bool.and_eq_true, List.singleton_append, List.forall_mem_cons,
          isPlainBlank_ofNat hb.1, ih tail hnot.2 htail]
      · have hstep : decoder.step decoder.start b = none := by
          simp only [decoder, if_neg hno, read, if_neg hb, Option.map_none]
        simp only [outputFrom, hstep, reduceCtorEq] at h

namespace Encoding

/-- The characters of which all bytes are blank. -/
def looksBlank : Encoding → Char → Bool
  | .utf16 order, c => ((Utf16.units c).flatMap order.bytes).all isBlankByte
  | _, c => isPlainBlank c

/-- Whether bytes hold an escape sequence, which stands for no character. -/
def Escapes (e : Encoding) (bytes : List UInt8) : Prop :=
  e = .iso2022Jp ∧ (0x1B : UInt8) ∈ bytes

/-- Outside of UTF-16, a character looks blank exactly if it is a blank of ASCII. -/
theorem looksBlank_eq {e : Encoding} (he : ∀ order, e ≠ .utf16 order) (c : Char) :
    e.looksBlank c = isPlainBlank c := by
  cases e with
  | utf16 order => exact absurd rfl (he order)
  | _ => rfl

/-- Outside of UTF-16, the characters of ASCII look blank exactly if they are, but for the vertical
    tab. -/
theorem looksBlank_eq_isBlank {e : Encoding} (he : ∀ order, e ≠ .utf16 order) {c : Char}
    (hc : c.toNat < 0x80) (htab : c.toNat ≠ 0x0B) : e.looksBlank c = Text.isBlank c := by
  rw [looksBlank_eq he, Bool.eq_iff_iff, isPlainBlank_iff]
  exact and_iff_left ⟨hc, htab⟩

/-- In UTF-16 no character of ASCII looks blank, as the other byte of it is zero. -/
theorem looksBlank_utf16_of_lt (order : Utf16.ByteOrder) {c : Char} (h : c.toNat < 0x80) :
    (utf16 order).looksBlank c = false := by
  have hzero : UInt8.ofNat (c.toNat / 256) = 0 := by
    rw [Nat.div_eq_of_lt (by omega)]
    rfl
  rw [looksBlank, Utf16.units_of_lt c (by omega), List.flatMap_singleton]
  cases order with
  | little =>
      rw [Utf16.ByteOrder.bytes, hzero, List.all_cons, List.all_cons]
      exact Bool.and_false _
  | big =>
      rw [Utf16.ByteOrder.bytes, hzero, List.all_cons]
      exact Bool.false_and _

/-- What blank bytes mean: the text has no character but such as look blank, and where there are
    escape sequences, there is none. -/
theorem all_isBlankByte_iff {e : Encoding} {bytes : List UInt8} {text : List Char}
    (h : e.decode? bytes = some text) :
    bytes.all isBlankByte = true ↔
      (∀ c ∈ text, e.looksBlank c = true) ∧ ¬e.Escapes bytes := by
  by_cases hiso : e = .iso2022Jp
  · subst hiso
    by_cases hescape : (0x1B : UInt8) ∈ bytes
    · -- The escape byte is no blank.
      refine iff_of_false (fun hall => ?_) fun hshown => hshown.2 ⟨rfl, hescape⟩
      exact absurd (List.all_eq_true.mp hall _ hescape) (by decide)
    · rw [and_iff_left fun hescapes => hescape hescapes.2]
      rw [decode?, decoder, Transducer.run_eq_outputFrom] at h
      exact Iso2022Jp.outputFrom_blank bytes text hescape h
  rw [and_iff_left fun hescapes => hiso hescapes.1]
  cases e with
  | utf8 =>
      have hbytes := (encode?_eq_some_iff .utf8 trivial text bytes).mpr h
      rw [encode?, encoder, Utf8.encoder, Transducer.run_stateless_total] at hbytes
      rw [← Option.some.inj hbytes, List.all_flatMap, List.all_eq_true]
      simp only [Utf8.all_isBlankByte_encodeChar, looksBlank]
  | utf16 order =>
      have hbytes := (encode?_eq_some_iff (.utf16 order) trivial text bytes).mpr h
      rw [encode?, encoder, Utf16.encoder, Transducer.run_stateless_total] at hbytes
      rw [← Option.some.inj hbytes, List.all_flatMap, List.all_eq_true]
      rfl
  | codePage page => exact page.decoder_extendsAscii.all_isBlankByte_iff h
  | userDefined => exact UserDefined.decoder_extendsAscii.all_isBlankByte_iff h
  | gbk => exact Gb18030.decoder_extendsAscii.all_isBlankByte_iff h
  | gb18030 => exact Gb18030.decoder_extendsAscii.all_isBlankByte_iff h
  | big5 => exact Big5.decoder_extendsAscii.all_isBlankByte_iff h
  | eucJp => exact EucJp.decoder_extendsAscii.all_isBlankByte_iff h
  | iso2022Jp => exact absurd rfl hiso
  | shiftJis => exact ShiftJis.decoder_extendsAscii.all_isBlankByte_iff h
  | eucKr => exact EucKr.decoder_extendsAscii.all_isBlankByte_iff h
  | replacement =>
      -- Only nothing is read, as nothing.
      cases bytes with
      | nil =>
          cases h
          exact iff_of_true rfl (List.forall_mem_nil _)
      | cons b rest => cases h

end Encoding

end BufferFormat
