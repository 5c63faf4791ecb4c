import BufferFormat.Encoding.CodePage
import BufferFormat.Proofs.Text.Scalar
import BufferFormat.Proofs.Transducer

/-!
# Code pages are undone by their decoders

A code page is read by position and written by searching, so writing finds a
byte only up to the first occurrence of a code point. The two agree because no
table repeats one, which has to be checked on the tables themselves.

Comparing every pair of entries is quadratic, and there are 28 tables of 128
entries. `distinctFrom` goes through a table once instead, with the code points
met so far as the bits of a number, and `eq_of_distinctFrom` says that this is
enough. The evaluation then costs next to nothing.

A table must also stay clear of the lower half, where the byte is the code
point, and must hold no surrogate, which no character has as its code point.
`IsTable` collects the three conditions, and `byteOf?_eq_some_iff` uses nothing
else about the tables.

## Main definitions

* `distinctFrom`: No code point but zero occurs twice.
* `IsTable`: What a table must satisfy for reading and writing to agree.
* `UserDefined.byteOf?`, `UserDefined.charOf`: The tables of the user-defined encoding.

## Theorems

* `upper_isTable`: The tables of all code pages are tables.
* `idxOf?_upper`: Searching a code point gives the one position where it stands.
* `byteOf?_eq_some_iff`: A character has a byte exactly if the byte stands for it.
* `run_encoder_eq_some_iff`: Writing and reading a code page are inverse.
* `UserDefined.run_encoder_eq_some_iff`: The same for the user-defined encoding.
-/

namespace BufferFormat

namespace CodePage

/-! ## Tables without repetition -/

/-- No code point but zero occurs twice, or has its bit in `seen`. -/
def distinctFrom (seen : Nat) : List Nat → Bool
  | [] => true
  | n :: rest => (n == 0 || !seen.testBit n) && distinctFrom (seen ||| 1 <<< n) rest

theorem distinctFrom_cons (seen n : Nat) (rest : List Nat)
    (h : distinctFrom seen (n :: rest) = true) :
    (n = 0 ∨ seen.testBit n = false) ∧ distinctFrom (seen ||| 1 <<< n) rest = true := by
  simp only [distinctFrom, Bool.and_eq_true, Bool.or_eq_true, beq_iff_eq,
    Bool.not_eq_true'] at h
  exact h

theorem testBit_seen_or (seen m n : Nat) :
    (seen ||| 1 <<< m).testBit n = (seen.testBit n || decide (m = n)) := by
  rw [Nat.testBit_or, Nat.shiftLeft_eq, Nat.one_mul, Nat.testBit_two_pow]

/-- What was seen before a table does not occur in it. -/
theorem testBit_of_distinctFrom (l : List Nat) :
    ∀ (seen n : Nat), distinctFrom seen l = true → n ∈ l → n ≠ 0 → seen.testBit n = false := by
  induction l with
  | nil =>
      intro seen n _ hmem
      exact absurd hmem List.not_mem_nil
  | cons m rest ih =>
      intro seen n h hmem hn
      rcases distinctFrom_cons seen m rest h with ⟨hm, hrest⟩
      rcases List.mem_cons.mp hmem with rfl | hmem
      · exact hm.resolve_left hn
      · -- More is seen further on, so what is new there is new here.
        have hbit := ih _ n hrest hmem hn
        rw [testBit_seen_or, Bool.or_eq_false_iff] at hbit
        exact hbit.1

theorem eq_of_distinctFrom (l : List Nat) :
    ∀ (seen i j n : Nat), distinctFrom seen l = true → n ≠ 0 →
      l[i]? = some n → l[j]? = some n → i = j := by
  induction l with
  | nil =>
      intro seen i j n _ _ hi
      rw [List.getElem?_nil] at hi
      cases hi
  | cons m rest ih =>
      intro seen i j n h hn hi hj
      rcases distinctFrom_cons seen m rest h with ⟨-, hrest⟩
      -- The head is marked as seen, so it cannot come again further on.
      have hfresh : ∀ k : Nat, rest[k]? = some n → m ≠ n := by
        intro k hk hm
        have hbit := testBit_of_distinctFrom rest _ n hrest (List.mem_of_getElem? hk) hn
        rw [testBit_seen_or, hm, decide_eq_true rfl, Bool.or_true] at hbit
        cases hbit
      cases i with
      | zero =>
          cases j with
          | zero => rfl
          | succ j =>
              rw [List.getElem?_cons_zero] at hi
              rw [List.getElem?_cons_succ] at hj
              exact absurd (Option.some.inj hi) (hfresh j hj)
      | succ i =>
          rw [List.getElem?_cons_succ] at hi
          cases j with
          | zero =>
              rw [List.getElem?_cons_zero] at hj
              exact absurd (Option.some.inj hj) (hfresh i hi)
          | succ j =>
              rw [List.getElem?_cons_succ] at hj
              rw [ih _ i j n hrest hn hi hj]

/-- A table of an upper half: 128 entries, each zero or the code point of a character outside of
    ASCII, and no such code point twice. -/
structure IsTable (upper : List Nat) : Prop where
  length_eq : upper.length = 128
  point_range : ∀ n ∈ upper, n = 0 ∨ 0x80 ≤ n ∧ n.isValidChar
  distinct : distinctFrom 0 upper = true

theorem upper_isTable (page : CodePage) : IsTable page.upper := by
  cases page <;>
    exact ⟨by decide +kernel, by decide +kernel, by decide +kernel⟩

/-- Searching a code point gives the one position where it stands. -/
theorem idxOf?_upper (page : CodePage) (i n : Nat) (hn : n ≠ 0) :
    page.upper.idxOf? n = some i ↔ page.upper[i]? = some n := by
  have hdistinct := (upper_isTable page).distinct
  rw [List.idxOf?_eq_some_iff, List.getElem?_eq_some_iff]
  constructor
  · rintro ⟨hi, hget, -⟩
    exact ⟨hi, hget⟩
  · rintro ⟨hi, hget⟩
    refine ⟨hi, hget, fun j hj hget' => ?_⟩
    -- A search stops at the first occurrence, and there is no other.
    have hij := eq_of_distinctFrom page.upper 0 i j n hdistinct hn
      (List.getElem?_eq_some_iff.mpr ⟨hi, hget⟩) (List.getElem?_eq_some_iff.mpr ⟨_, hget'⟩)
    omega

/-! ## Bytes and characters -/

theorem charOf?_of_lt (page : CodePage) (b : UInt8) (h : b.toNat < 0x80) :
    page.charOf? b = some (Char.ofNat b.toNat) := by
  rw [charOf?, if_pos h]

/-- A byte of the upper half stands for a character exactly if the table has its code point. -/
theorem charOf?_of_le (page : CodePage) (b : UInt8) (c : Char) (h : 0x80 ≤ b.toNat) :
    page.charOf? b = some c ↔ c.toNat ≠ 0 ∧ page.upper[b.toNat - 0x80]? = some c.toNat := by
  rw [charOf?, if_neg (by omega)]
  rcases hget : page.upper[b.toNat - 0x80]? with _ | n
  · simp only [reduceCtorEq, and_false]
  have hrange := (upper_isTable page).point_range n (List.mem_of_getElem? hget)
  cases n with
  | zero =>
      -- Zero marks a byte without a character.
      simp only [reduceCtorEq, Option.some.injEq, false_iff, not_and]
      exact fun hc h0 => hc h0.symm
  | succ n =>
      have hv := (hrange.resolve_left (Nat.succ_ne_zero n)).2
      simp only [Option.some.injEq]
      rw [Text.ofNat_eq_iff _ c hv]
      constructor
      · intro hc
        exact ⟨by omega, hc.symm⟩
      · intro hc
        exact hc.2.symm

theorem byteOf?_of_lt (page : CodePage) (c : Char) (h : c.toNat < 0x80) :
    page.byteOf? c = some (UInt8.ofNat c.toNat) := by
  rw [byteOf?, if_pos h]

theorem byteOf?_of_le (page : CodePage) (c : Char) (b : UInt8) (h : 0x80 ≤ c.toNat) :
    page.byteOf? c = some b ↔
      0x80 ≤ b.toNat ∧ page.upper[b.toNat - 0x80]? = some c.toNat := by
  have hc : c.toNat ≠ 0 := by omega
  rw [byteOf?, if_neg (by omega), Option.map_eq_some_iff]
  constructor
  · rintro ⟨i, hi, rfl⟩
    rw [idxOf?_upper page i c.toNat hc] at hi
    have hlt : i < 128 := by
      rw [← (upper_isTable page).length_eq]
      exact (List.getElem?_eq_some_iff.mp hi).1
    rw [UInt8.toNat_ofNat_of_lt' (show 0x80 + i < 256 by omega), Nat.add_sub_cancel_left]
    exact ⟨by omega, hi⟩
  · rintro ⟨hb, hget⟩
    refine ⟨b.toNat - 0x80, (idxOf?_upper page _ c.toNat hc).mpr hget, ?_⟩
    exact Text.byte_ofNat_eq b _ (by omega)

/-- A character has a byte exactly if the byte stands for it. -/
theorem byteOf?_eq_some_iff (page : CodePage) (c : Char) (b : UInt8) :
    page.byteOf? c = some b ↔ page.charOf? b = some c := by
  by_cases hb : b.toNat < 0x80
  · rw [charOf?_of_lt page b hb, Option.some.injEq,
      Text.ofNat_eq_iff b.toNat c (Or.inl (by omega))]
    by_cases hc : c.toNat < 0x80
    · rw [byteOf?_of_lt page c hc, Option.some.injEq]
      constructor
      · intro h
        rw [← h, UInt8.toNat_ofNat_of_lt' (show c.toNat < 256 by omega)]
      · intro h
        exact Text.byte_ofNat_eq b _ h
    · -- One side is in ASCII and the other is not, so neither table has the pair.
      rw [byteOf?_of_le page c b (by omega)]
      constructor <;> omega
  · rw [charOf?_of_le page b c (by omega)]
    by_cases hc : c.toNat < 0x80
    · rw [byteOf?_of_lt page c hc, Option.some.injEq]
      constructor
      · intro h
        rw [← h, UInt8.toNat_ofNat_of_lt' (show c.toNat < 256 by omega)] at hb
        omega
      · rintro ⟨h0, hget⟩
        -- No entry of a table is an ASCII code point.
        rcases (upper_isTable page).point_range _ (List.mem_of_getElem? hget) with h | ⟨h, -⟩
        · exact absurd h h0
        · omega
    · rw [byteOf?_of_le page c b (by omega)]
      constructor
      · intro h
        exact ⟨by omega, h.2⟩
      · intro h
        exact ⟨by omega, h.2⟩

/-- Writing and reading a code page are inverse partial functions. -/
theorem run_encoder_eq_some_iff (page : CodePage) (cs : List Char) (bs : List UInt8) :
    page.encoder.run cs = some bs ↔ page.decoder.run bs = some cs :=
  (Transducer.undoes_of_iff page.byteOf? page.charOf?
    (byteOf?_eq_some_iff page)).run_stateless_eq_some_iff cs bs

end CodePage

namespace UserDefined

/-- The character of a byte. -/
def charOf (b : UInt8) : Char :=
  Char.ofNat (if b.toNat < 0x80 then b.toNat else 0xF780 + (b.toNat - 0x80))

/-- The byte of a character, if it is ASCII or in the block that stands for the upper half. -/
def byteOf? (c : Char) : Option UInt8 :=
  if c.toNat < 0x80 then some (UInt8.ofNat c.toNat)
  else if 0xF780 ≤ c.toNat ∧ c.toNat ≤ 0xF7FF then
    some (UInt8.ofNat (0x80 + (c.toNat - 0xF780)))
  else none

theorem toNat_charOf (b : UInt8) :
    (charOf b).toNat = if b.toNat < 0x80 then b.toNat else 0xF780 + (b.toNat - 0x80) := by
  have hb : b.toNat < 256 := b.toNat_lt
  rw [charOf, Text.toNat_ofNat]
  unfold Nat.isValidChar
  split <;> omega

theorem byteOf?_eq_some_iff (c : Char) (b : UInt8) :
    byteOf? c = some b ↔ some (charOf b) = some c := by
  have hb : b.toNat < 256 := b.toNat_lt
  rw [Option.some.injEq, ← Char.toNat_inj, toNat_charOf, byteOf?]
  by_cases h1 : c.toNat < 0x80
  · rw [if_pos h1, Option.some.injEq, ← UInt8.toNat_inj,
      UInt8.toNat_ofNat_of_lt' (show c.toNat < 256 by omega)]
    split <;> omega
  rw [if_neg h1]
  by_cases h2 : 0xF780 ≤ c.toNat ∧ c.toNat ≤ 0xF7FF
  · rw [if_pos h2, Option.some.injEq, ← UInt8.toNat_inj,
      UInt8.toNat_ofNat_of_lt' (show 0x80 + (c.toNat - 0xF780) < 256 by omega)]
    split <;> omega
  · rw [if_neg h2]
    simp only [reduceCtorEq, false_iff]
    split <;> omega

theorem encoder_eq_stateless : encoder = .stateless fun c => (byteOf? c).map ([·]) := by
  rw [encoder]
  congr 1
  funext c
  rw [byteOf?]
  split
  · rfl
  split
  · rfl
  · rfl

/-- Writing and reading the user-defined encoding are inverse partial functions. -/
theorem run_encoder_eq_some_iff (cs : List Char) (bs : List UInt8) :
    encoder.run cs = some bs ↔ decoder.run bs = some cs := by
  rw [encoder_eq_stateless]
  exact (Transducer.undoes_of_iff byteOf? (fun b => some (charOf b))
    byteOf?_eq_some_iff).run_stateless_eq_some_iff cs bs

end UserDefined

end BufferFormat
