import BufferFormat.Proofs.Text.Utf8
import Mathlib.Data.List.Infix

/-!
# Lossy UTF-8 keeps what is well-formed

The lossy reading never fails, and what it reads from broken bytes is of little
use. What matters is that broken bytes do no harm to the text around them. Two
facts say so.

Whatever stands before it, a well-formed text is read as itself. A character
that was cut off before it cannot take up its first byte, because no character
begins with a byte that continues one: `exists_head_encodeChar` against
`Progress.Continues`, which every reachable state satisfies. So the reading
falls into three parts wherever well-formed text stands among other bytes.

The other way round, every character that is read stands for its own bytes,
unless it is the replacement character. `ReadAs` says this of a whole reading,
and it follows from what the states of the strict decoder stand for, since both
readings share them. The bytes of neighbouring characters are neighbours, so no
text without the replacement character appears that was not there in the bytes.

Together, searching for a text and searching for its bytes come to the same.

## Main definitions

* `Progress.Continues`: What a state waits for continues a character.
* `ReadAs`: Every character of a text but the replacement stands for its own bytes.

## Theorems

* `lossyFrom_of_outputFrom`: What the strict decoder accepts is read alike.
* `lossy_append_encode`: Well-formed text is read as itself, whatever is around it.
* `readAs_lossy`: Nothing but replacements is made up.
* `infix_lossy_iff`: A text is found where its bytes are.
* `count_lossy`: No line feed is lost or made up.
-/

namespace BufferFormat

namespace Utf8

/-! ## One byte -/

section Step

variable {p p' : Progress} {b : Nat} {c : Char}

theorem lossyStep_of_more (h : advance p b = .more p') (written : List Char) :
    lossyStep p b written = (p', written) := by
  simp only [lossyStep, h]

theorem lossyStep_of_char (h : advance p b = .char c) (written : List Char) :
    lossyStep p b written = (.start, c :: written) := by
  simp only [lossyStep, h]

theorem lossyStep_start_of_broken (h : first b = .broken) (written : List Char) :
    lossyStep .start b written = (.start, replacement :: written) := by
  simp only [lossyStep, advance_start, h]

/-- A byte that breaks a character off is read as a first byte, after the replacement. -/
theorem lossyStep_inside_of_broken {point owed low high : Nat}
    (h : advance (.inside point owed low high) b = .broken) (written : List Char) :
    lossyStep (.inside point owed low high) b written =
      lossyStep .start b (replacement :: written) := by
  simp only [lossyStep, h, advance_start]

end Step

theorem lossyFrom_cons (p : Progress) (written : List Char) (b : UInt8) (rest : List UInt8) :
    lossyFrom p written (b :: rest) =
      lossyFrom (lossyStep p b.toNat written).1 (lossyStep p b.toNat written).2 rest := by
  cases p <;> rfl

/-- What was written before is only put in front. -/
theorem lossyStep_written (p : Progress) (b : Nat) (written : List Char) :
    lossyStep p b written = ((lossyStep p b []).1, (lossyStep p b []).2 ++ written) := by
  cases h : advance p b with
  | more p' => rw [lossyStep_of_more h, lossyStep_of_more h, List.nil_append]
  | char c => rw [lossyStep_of_char h, lossyStep_of_char h, List.singleton_append]
  | broken =>
      cases p with
      | start =>
          rw [lossyStep_start_of_broken h, lossyStep_start_of_broken h, List.singleton_append]
      | inside point owed low high =>
          simp only [lossyStep, h]
          cases first b <;> rfl

theorem lossyFrom_written (bs : List UInt8) (p : Progress) (written : List Char) :
    lossyFrom p written bs = written.reverse ++ lossyFrom p [] bs := by
  induction bs generalizing p written with
  | nil =>
      cases p with
      | start => rw [lossyFrom, lossyFrom, List.reverse_nil, List.append_nil]
      | inside point owed low high => rw [lossyFrom, lossyFrom, List.reverse_cons]; rfl
  | cons b rest ih =>
      rw [lossyFrom_cons, lossyStep_written, ih, lossyFrom_cons, ih _ (lossyStep p b.toNat []).2,
        List.reverse_append, List.append_assoc]

/-! ## What is well-formed is read as itself -/

/-- What a state waits for continues a character. Between characters nothing is waited for. -/
def Progress.Continues : Progress → Prop
  | .start => True
  | .inside _ _ low high => 0x80 ≤ low ∧ high ≤ 0xBF

theorem continues_of_first {b : Nat} {p : Progress} (h : first b = .more p) : p.Continues := by
  rcases first_cases b with ⟨_, heq⟩ | heq | ⟨_, _, heq⟩ | ⟨_, _, heq⟩ | ⟨_, _, heq⟩
  · cases heq.symm.trans h
  · cases heq.symm.trans h
  · cases heq.symm.trans h
    exact ⟨Nat.le_refl _, Nat.le_refl _⟩
  -- Bounds of their own only narrow the range of bytes that continue a character.
  · cases heq.symm.trans h
    constructor <;> split <;> omega
  · cases heq.symm.trans h
    constructor <;> split <;> omega

theorem continues_of_advance {p p' : Progress} {b : Nat} (h : advance p b = .more p') :
    p'.Continues := by
  cases p with
  | start => exact continues_of_first h
  | inside point owed low high =>
      by_cases hrange : low ≤ b ∧ b ≤ high
      · cases owed with
        | zero =>
            rw [advance_inside_zero _ _ _ _ hrange.1 hrange.2] at h
            cases h
        | succ owed =>
            rw [advance_inside_succ _ _ _ _ _ hrange.1 hrange.2] at h
            cases h
            exact ⟨Nat.le_refl _, Nat.le_refl _⟩
      · rw [advance_inside_of_not _ _ _ _ _ hrange] at h
        cases h

theorem continues_lossyStep (p : Progress) (b : Nat) (written : List Char) :
    (lossyStep p b written).1.Continues := by
  have hstart : ∀ written, (lossyStep .start b written).1.Continues := by
    intro written
    cases h : advance .start b with
    | more p' => rw [lossyStep_of_more h]; exact continues_of_advance h
    | char c => rw [lossyStep_of_char h]; exact trivial
    | broken => rw [lossyStep_start_of_broken h]; exact trivial
  cases p with
  | start => exact hstart written
  | inside point owed low high =>
      cases h : advance (.inside point owed low high) b with
      | more p' => rw [lossyStep_of_more h]; exact continues_of_advance h
      | char c => rw [lossyStep_of_char h]; exact trivial
      | broken => rw [lossyStep_inside_of_broken h]; exact hstart _

/-- No character begins with a byte that continues one. -/
theorem exists_head_encodeChar (c : Char) :
    ∃ b tail, String.utf8EncodeChar c = b :: tail ∧ ¬(0x80 ≤ b.toNat ∧ b.toNat ≤ 0xBF) := by
  by_cases hc : c.toNat < 0x80
  · refine ⟨_, _, by rw [← Char.ofNat_toNat c, encodeChar_one c.toNat hc], ?_⟩
    rw [UInt8.toNat_ofNat_of_lt' (show c.toNat < 256 by omega)]
    omega
  · rcases exists_head_encodeChar_of_le (Nat.le_of_not_lt hc) with ⟨b, tail, hbytes, hb⟩
    exact ⟨b, tail, hbytes, by omega⟩

/-- What the strict decoder accepts is read alike, whatever follows. -/
theorem lossyFrom_of_outputFrom (bs rest : List UInt8) (p : Progress) (written cs : List Char)
    (h : decoder.outputFrom p bs = some cs) :
    lossyFrom p written (bs ++ rest) = lossyFrom .start (cs.reverse ++ written) rest := by
  induction bs generalizing p written cs with
  | nil =>
      -- The strict decoder accepts the end between characters only.
      cases p with
      | start => cases h; rfl
      | inside point owed low high => cases h
  | cons b bs ih =>
      rw [List.cons_append, lossyFrom_cons]
      rw [← UInt8.ofNat_toNat (x := b)] at h
      cases hadv : advance p b.toNat with
      | more p' =>
          rw [outputFrom_of_more _ _ _ _ b.toNat_lt hadv] at h
          rw [lossyStep_of_more hadv]
          exact ih p' written cs h
      | char c =>
          rw [outputFrom_of_char _ _ _ _ b.toNat_lt hadv] at h
          rcases Option.map_eq_some_iff.mp h with ⟨tail, htail, rfl⟩
          rw [lossyStep_of_char hadv, List.reverse_cons, List.append_assoc, List.singleton_append]
          exact ih .start (c :: written) tail htail
      | broken =>
          rw [UInt8.ofNat_toNat] at h
          simp only [Transducer.outputFrom, decoder, hadv, reduceCtorEq] at h

/-- The strict decoder accepts the bytes of a text. -/
theorem outputFrom_encode (cs : List Char) : decoder.outputFrom .start (encode cs) = some cs := by
  refine decoder_undoes.outputFrom_of_stateless cs (encode cs) ?_
  have hrun := Transducer.run_stateless_total String.utf8EncodeChar cs
  rw [Transducer.run_eq_outputFrom] at hrun
  exact hrun

/-- Well-formed text breaks off a character before it, and is then read as itself. -/
theorem lossyFrom_encode_append {p : Progress} (hp : p.Continues) {cs : List Char} (hcs : cs ≠ [])
    (rest : List UInt8) :
    lossyFrom p [] (encode cs ++ rest) = lossyFrom p [] [] ++ (cs ++ lossy rest) := by
  have hstart : ∀ written, lossyFrom .start written (encode cs ++ rest) =
      written.reverse ++ (cs ++ lossy rest) := by
    intro written
    rw [lossyFrom_of_outputFrom _ rest _ written cs (outputFrom_encode cs), lossyFrom_written,
      List.reverse_append, List.reverse_reverse, List.append_assoc]
    rfl
  cases p with
  | start => exact hstart []
  | inside point owed low high =>
      rcases List.exists_cons_of_ne_nil hcs with ⟨c, tail, rfl⟩
      rcases exists_head_encodeChar c with ⟨b, bytes, hbytes, hb⟩
      have hbroken : advance (.inside point owed low high) b.toNat = .broken :=
        advance_inside_of_not _ _ _ _ _ fun h =>
          hb ⟨Nat.le_trans hp.1 h.1, Nat.le_trans h.2 hp.2⟩
      have hcons : encode (c :: tail) ++ rest = b :: (bytes ++ (encode tail ++ rest)) := by
        rw [encode, List.flatMap_cons, hbytes, List.append_assoc, List.cons_append]
        rfl
      rw [hcons, lossyFrom_cons, lossyStep_inside_of_broken hbroken, ← lossyFrom_cons, ← hcons,
        hstart]
      rfl

theorem lossyFrom_append_encode (before : List UInt8) {p : Progress} (hp : p.Continues)
    {cs : List Char} (hcs : cs ≠ []) (rest : List UInt8) :
    lossyFrom p [] (before ++ (encode cs ++ rest)) =
      lossyFrom p [] before ++ (cs ++ lossy rest) := by
  induction before generalizing p with
  | nil => exact lossyFrom_encode_append hp hcs rest
  | cons b before ih =>
      rw [List.cons_append, lossyFrom_cons, lossyFrom_cons, lossyFrom_written,
        lossyFrom_written before, ih (continues_lossyStep _ _ _), List.append_assoc]

/-- Well-formed text is read as itself, whatever is around it. -/
theorem lossy_append_encode (before : List UInt8) {cs : List Char} (hcs : cs ≠ [])
    (rest : List UInt8) :
    lossy (before ++ (encode cs ++ rest)) = lossy before ++ (cs ++ lossy rest) :=
  lossyFrom_append_encode before (p := .start) trivial hcs rest

/-- Well-formed text alone is read as itself. -/
theorem lossy_encode (cs : List Char) : lossy (encode cs) = cs := by
  have h := lossyFrom_of_outputFrom (encode cs) [] .start [] cs (outputFrom_encode cs)
  rw [List.append_nil, List.append_nil] at h
  exact h.trans (List.reverse_reverse cs)

/-! ## Nothing but replacements is made up -/

/-- Bytes are read as a text of which every character stands for its own bytes, and only the
    replacement for any. -/
def ReadAs : List UInt8 → List Char → Prop
  | bs, [] => bs = []
  | bs, c :: cs => ∃ block rest, bs = block ++ rest ∧
    (block = String.utf8EncodeChar c ∨ c = replacement) ∧ ReadAs rest cs

/-- A reading begins with what is pending. The induction is on the rest of the bytes. -/
theorem readAs_lossyFrom (bs held : List UInt8) (p : Progress) (hp : Pending p held) :
    ReadAs (held ++ bs) (lossyFrom p [] bs) := by
  induction bs generalizing p held with
  | nil =>
      cases p with
      | start => exact List.append_eq_nil_iff.mpr ⟨hp, rfl⟩
      | inside point owed low high => exact ⟨held, [], rfl, Or.inr rfl, rfl⟩
  | cons b bs ih =>
      have hchar : ∀ {p : Progress} {held : List UInt8} {c : Char}, Pending p held →
          advance p b.toNat = .char c → ReadAs (held ++ b :: bs) (lossyFrom p [] (b :: bs)) := by
        intro p held c hp h
        rw [lossyFrom_cons, lossyStep_of_char h, lossyFrom_written]
        exact ⟨held ++ [b], bs, List.append_cons held b bs,
          Or.inl ((advance_pending p held b hp).2 c h).symm, ih [] .start rfl⟩
      have hmore : ∀ {p p' : Progress} {held : List UInt8}, Pending p held →
          advance p b.toNat = .more p' → ReadAs (held ++ b :: bs) (lossyFrom p [] (b :: bs)) := by
        intro p p' held hp h
        rw [lossyFrom_cons, lossyStep_of_more h, List.append_cons]
        exact ih (held ++ [b]) p' ((advance_pending p held b hp).1 p' h)
      -- A byte between characters is a character, the beginning of one, or replaced alone.
      have hstart : ReadAs (b :: bs) (lossyFrom .start [] (b :: bs)) := by
        have hnone : Pending .start [] := rfl
        cases h : advance .start b.toNat with
        | more p' => exact hmore hnone h
        | char c => exact hchar hnone h
        | broken =>
            rw [lossyFrom_cons, lossyStep_start_of_broken h, lossyFrom_written]
            exact ⟨[b], bs, rfl, Or.inr rfl, ih [] .start rfl⟩
      cases h : advance p b.toNat with
      | more p' => exact hmore hp h
      | char c => exact hchar hp h
      | broken =>
          cases p with
          | start =>
              rw [show held = [] from hp]
              exact hstart
          | inside point owed low high =>
              -- What is pending is replaced, and the byte is read between characters.
              rw [lossyFrom_cons, lossyStep_inside_of_broken h, ← lossyFrom_cons,
                lossyFrom_written]
              exact ⟨held, b :: bs, rfl, Or.inr rfl, hstart⟩

/-- Every character that is read stands for its own bytes, unless it is a replacement. -/
theorem readAs_lossy (bs : List UInt8) : ReadAs bs (lossy bs) :=
  readAs_lossyFrom bs [] .start rfl

/-- The end of a text is read from the end of the bytes. -/
theorem ReadAs.drop {before cs : List Char} {bs : List UInt8} (h : ReadAs bs (before ++ cs)) :
    ∃ front rest, bs = front ++ rest ∧ ReadAs rest cs := by
  induction before generalizing bs with
  | nil => exact ⟨[], bs, rfl, h⟩
  | cons c before ih =>
      rcases h with ⟨block, rest, rfl, _, hrest⟩
      rcases ih hrest with ⟨front, rest', rfl, hrest'⟩
      exact ⟨block ++ front, rest', (List.append_assoc _ _ _).symm, hrest'⟩

/-- A text without replacements is read from its own bytes. -/
theorem ReadAs.prefix_encode {cs after : List Char} {bs : List UInt8} (hcs : replacement ∉ cs)
    (h : ReadAs bs (cs ++ after)) : encode cs <+: bs := by
  induction cs generalizing bs with
  | nil => exact List.nil_prefix
  | cons c cs ih =>
      rw [List.mem_cons, not_or] at hcs
      rcases h with ⟨block, rest, rfl, hblock, hrest⟩
      obtain rfl := hblock.resolve_right (Ne.symm hcs.1)
      rw [encode, List.flatMap_cons, List.prefix_append_right_inj]
      exact ih hcs.2 hrest

/-! ## Searching -/

/-- A text is found exactly where its bytes are, as long as it has no replacement character. -/
theorem infix_lossy_iff {cs : List Char} (hcs : replacement ∉ cs) (bs : List UInt8) :
    cs <:+: lossy bs ↔ encode cs <:+: bs := by
  constructor
  · rintro ⟨before, after, htext⟩
    have hread := readAs_lossy bs
    rw [← htext, List.append_assoc] at hread
    rcases hread.drop with ⟨front, rest, rfl, hrest⟩
    exact (hrest.prefix_encode hcs).isInfix.trans (List.suffix_append front rest).isInfix
  · rintro ⟨before, after, rfl⟩
    by_cases hne : cs = []
    · rw [hne]
      exact List.nil_infix
    · rw [List.append_assoc, lossy_append_encode before hne]
      exact ⟨lossy before, lossy after, List.append_assoc _ _ _⟩

/-- A line feed breaks off whatever stands before it. -/
theorem lossy_append_lineFeed (before rest : List UInt8) :
    lossy (before ++ 0x0A :: rest) = lossy before ++ '\n' :: lossy rest :=
  lossy_append_encode before (List.cons_ne_nil '\n' []) rest

theorem lineFeed_mem_lossy_iff (bs : List UInt8) : '\n' ∈ lossy bs ↔ (0x0A : UInt8) ∈ bs := by
  have hnot : replacement ∉ ['\n'] := by decide
  have hfound := infix_lossy_iff hnot bs
  rw [List.singleton_infix_iff] at hfound
  exact hfound.trans (List.singleton_infix_iff _ _)

/-- No line feed is lost or made up. The induction is on the number of line feeds. -/
theorem count_lossy (bs : List UInt8) : (lossy bs).count '\n' = bs.count 0x0A := by
  induction hn : bs.count 0x0A generalizing bs with
  | zero =>
      rw [List.count_eq_zero] at hn ⊢
      rwa [lineFeed_mem_lossy_iff]
  | succ n ih =>
      have hmem : (0x0A : UInt8) ∈ bs := List.count_pos_iff.mp (by omega)
      rcases List.eq_append_cons_of_mem hmem with ⟨line, rest, rfl, hline⟩
      rw [List.count_append, List.count_eq_zero.mpr hline, List.count_cons_self] at hn
      rw [lossy_append_lineFeed, List.count_append, List.count_cons_self, ih rest (by omega),
        List.count_eq_zero.mpr (mt (lineFeed_mem_lossy_iff line).mp hline), Nat.zero_add]

end Utf8

end BufferFormat
