import BufferFormat.Proofs.Text.Scalar
import BufferFormat.Proofs.Transducer
import BufferFormat.Text.Utf8

/-!
# Strict UTF-8 is undone by its decoder

The decoder of `Text.Utf8` never compares a sequence with what the encoder
would have written. It bounds the second byte by the first, and every later one
by the continuation range, and computes the character from the bits. That these
bounds leave exactly the shortest forms of scalar values is what is shown here.

The encoder's side is put into arithmetic first: four lemmas give the bytes of
the character `Char.ofNat n` by division with remainder, one for each length.
`first_three` and `first_four` put the decoder's first byte into the same form,
with the two exceptional bounds as conditions on the leading digit.

What the decoder has read without an answer is not in its state, only the bits
of it are. `Spelled` therefore says of the bytes what they will turn out to be:
whatever the bytes still owed are, the bytes so far are the beginning of the
encoding of the character that results.

## Main definitions

* `Spelled`: Bytes that every continuation within the bounds completes to a character.
* `Pending`: The bytes that a state of the decoder stands for.

## Theorems

* `encodeChar_one`, `encodeChar_two`, `encodeChar_three`, `encodeChar_four`: The bytes of a
  character by the size of its code point.
* `first_cases`: Everything a first byte can mean.
* `reads_encodeChar`: The decoder reads the bytes of a character back.
* `pending_of_first`: What a first byte promises is kept by every continuation.
* `advance_pending`: What is pending grows by a byte or is a whole character.
* `decoder_undoes`: The decoder undoes the encoder.
* `decode?_encode`: What was written is read back.
-/

namespace BufferFormat

namespace Utf8

/-! ## The bytes of a character -/

theorem encodeChar_one (n : Nat) (h : n < 0x80) :
    String.utf8EncodeChar (Char.ofNat n) = [UInt8.ofNat n] := by
  have hn : (Char.ofNat n).val.toNat = n :=
    Text.toNat_ofNat n (Or.inl (by omega))
  rw [String.utf8EncodeChar, hn, if_pos (by omega)]

theorem encodeChar_two (n : Nat) (h : 0x80 ≤ n) (h' : n < 0x800) :
    String.utf8EncodeChar (Char.ofNat n) =
      [UInt8.ofNat (0xC0 + n / 64), UInt8.ofNat (0x80 + n % 64)] := by
  have hn : (Char.ofNat n).val.toNat = n :=
    Text.toNat_ofNat n (Or.inl (by omega))
  -- The encoder cuts digits off that are too large, which none of these is.
  rw [String.utf8EncodeChar, hn, if_neg (by omega), if_pos (by omega),
    show n / 64 % 0x20 + 0xC0 = 0xC0 + n / 64 by omega,
    show n % 0x40 + 0x80 = 0x80 + n % 64 by omega]

theorem encodeChar_three (n : Nat) (h : 0x800 ≤ n) (h' : n < 0x10000) (hv : n.isValidChar) :
    String.utf8EncodeChar (Char.ofNat n) =
      [UInt8.ofNat (0xE0 + n / 4096), UInt8.ofNat (0x80 + n / 64 % 64),
        UInt8.ofNat (0x80 + n % 64)] := by
  have hn : (Char.ofNat n).val.toNat = n :=
    Text.toNat_ofNat n hv
  rw [String.utf8EncodeChar, hn, if_neg (by omega), if_neg (by omega), if_pos (by omega),
    show n / 4096 % 0x10 + 0xE0 = 0xE0 + n / 4096 by omega,
    show n / 64 % 0x40 + 0x80 = 0x80 + n / 64 % 64 by omega,
    show n % 0x40 + 0x80 = 0x80 + n % 64 by omega]

theorem encodeChar_four (n : Nat) (h : 0x10000 ≤ n) (h' : n < 0x110000) :
    String.utf8EncodeChar (Char.ofNat n) =
      [UInt8.ofNat (0xF0 + n / 262144), UInt8.ofNat (0x80 + n / 4096 % 64),
        UInt8.ofNat (0x80 + n / 64 % 64), UInt8.ofNat (0x80 + n % 64)] := by
  have hn : (Char.ofNat n).val.toNat = n :=
    Text.toNat_ofNat n (Or.inr ⟨by omega, h'⟩)
  rw [String.utf8EncodeChar, hn, if_neg (by omega), if_neg (by omega), if_neg (by omega),
    show n / 262144 % 0x08 + 0xF0 = 0xF0 + n / 262144 by omega,
    show n / 4096 % 0x40 + 0x80 = 0x80 + n / 4096 % 64 by omega,
    show n / 64 % 0x40 + 0x80 = 0x80 + n / 64 % 64 by omega,
    show n % 0x40 + 0x80 = 0x80 + n % 64 by omega]

/-- A character beyond ASCII begins with a byte that only begins such characters. -/
theorem exists_head_encodeChar_of_le {c : Char} (h : 0x80 ≤ c.toNat) :
    ∃ b tail, String.utf8EncodeChar c = b :: tail ∧ 0xC0 ≤ b.toNat := by
  have hv : c.toNat.isValidChar := c.valid
  rw [← Char.ofNat_toNat c]
  by_cases h2 : c.toNat < 0x800
  · refine ⟨_, _, encodeChar_two c.toNat h h2, ?_⟩
    rw [UInt8.toNat_ofNat_of_lt' (show 0xC0 + c.toNat / 64 < 256 by omega)]
    omega
  by_cases h3 : c.toNat < 0x10000
  · refine ⟨_, _, encodeChar_three c.toNat (by omega) h3 hv, ?_⟩
    rw [UInt8.toNat_ofNat_of_lt' (show 0xE0 + c.toNat / 4096 < 256 by omega)]
    omega
  · have hmax : c.toNat < 0x110000 := hv.elim (fun h => by omega) (fun h => h.2)
    refine ⟨_, _, encodeChar_four c.toNat (by omega) hmax, ?_⟩
    rw [UInt8.toNat_ofNat_of_lt' (show 0xF0 + c.toNat / 262144 < 256 by omega)]
    omega

/-! ## What a byte means -/

theorem first_one (b : Nat) (h : b < 0x80) : first b = .char (Char.ofNat b) := by
  rw [first, if_pos h]

theorem first_two (b : Nat) (h : 0xC2 ≤ b) (h' : b < 0xE0) :
    first b = .more (.inside (b - 0xC0) 0 0x80 0xBF) := by
  rw [first, if_neg (by omega), if_neg (by omega), if_pos h']

/-- The least second byte keeps out overlong forms, and the greatest one surrogates. -/
theorem first_three : ∀ t < 16, first (0xE0 + t) =
    .more (.inside t 1 (if t = 0 then 0xA0 else 0x80) (if t = 13 then 0x9F else 0xBF)) := by
  decide

/-- The least second byte keeps out overlong forms, and the greatest one what is too large. -/
theorem first_four : ∀ t < 5, first (0xF0 + t) =
    .more (.inside t 2 (if t = 0 then 0x90 else 0x80) (if t = 4 then 0x8F else 0xBF)) := by
  decide

theorem first_eq_broken (b : Nat) (h : 0x80 ≤ b ∧ b < 0xC2 ∨ 0xF5 ≤ b) : first b = .broken := by
  rcases h with ⟨h, h'⟩ | h
  · rw [first, if_neg (by omega), if_pos h']
  · -- Beyond 0xF4 a byte is none of the four that have bounds of their own.
    have hE : (b == 0xE0) = false := beq_eq_false_iff_ne.mpr (by omega)
    have hD : (b == 0xED) = false := beq_eq_false_iff_ne.mpr (by omega)
    have hF : (b == 0xF0) = false := beq_eq_false_iff_ne.mpr (by omega)
    have h4 : (b == 0xF4) = false := beq_eq_false_iff_ne.mpr (by omega)
    rw [first, if_neg (by omega), if_neg (by omega), if_neg (by omega), hE, hD, hF, h4]
    simp only [Bool.false_eq_true, if_false]
    rw [if_neg (by omega), if_neg (by omega)]

/-- Everything a first byte can mean, with the length of the sequence it opens. -/
theorem first_cases (b : Nat) :
    b < 0x80 ∧ first b = .char (Char.ofNat b) ∨ first b = .broken ∨
      0xC2 ≤ b ∧ b < 0xE0 ∧ first b = .more (.inside (b - 0xC0) 0 0x80 0xBF) ∨
      0xE0 ≤ b ∧ b < 0xF0 ∧ first b = .more (.inside (b - 0xE0) 1
        (if b - 0xE0 = 0 then 0xA0 else 0x80) (if b - 0xE0 = 13 then 0x9F else 0xBF)) ∨
      0xF0 ≤ b ∧ b < 0xF5 ∧ first b = .more (.inside (b - 0xF0) 2
        (if b - 0xF0 = 0 then 0x90 else 0x80) (if b - 0xF0 = 4 then 0x8F else 0xBF)) := by
  by_cases h1 : b < 0x80
  · exact Or.inl ⟨h1, first_one b h1⟩
  by_cases h2 : b < 0xC2 ∨ 0xF5 ≤ b
  · exact Or.inr (Or.inl (first_eq_broken b (by omega)))
  by_cases h3 : b < 0xE0
  · exact Or.inr (Or.inr (Or.inl ⟨by omega, h3, first_two b (by omega) h3⟩))
  by_cases h4 : b < 0xF0
  · have hfirst := first_three (b - 0xE0) (by omega)
    rw [show 0xE0 + (b - 0xE0) = b by omega] at hfirst
    exact Or.inr (Or.inr (Or.inr (Or.inl ⟨by omega, h4, hfirst⟩)))
  · have hfirst := first_four (b - 0xF0) (by omega)
    rw [show 0xF0 + (b - 0xF0) = b by omega] at hfirst
    exact Or.inr (Or.inr (Or.inr (Or.inr ⟨by omega, by omega, hfirst⟩)))

theorem advance_start (b : Nat) : advance .start b = first b := rfl

theorem advance_inside_zero (point low high b : Nat) (h : low ≤ b) (h' : b ≤ high) :
    advance (.inside point 0 low high) b = .char (Char.ofNat (point * 64 + (b - 0x80))) := by
  rw [advance, if_pos ⟨h, h'⟩]

theorem advance_inside_of_not (point owed low high b : Nat) (h : ¬(low ≤ b ∧ b ≤ high)) :
    advance (.inside point owed low high) b = .broken := by
  cases owed with
  | zero => rw [advance, if_neg h]
  | succ owed => rw [advance, if_neg h]

theorem advance_inside_succ (point owed low high b : Nat) (h : low ≤ b) (h' : b ≤ high) :
    advance (.inside point (owed + 1) low high) b =
      .more (.inside (point * 64 + (b - 0x80)) owed 0x80 0xBF) := by
  rw [advance, if_pos ⟨h, h'⟩]

theorem outputFrom_of_more (p p' : Progress) (n : Nat) (rest : List UInt8) (hn : n < 256)
    (h : advance p n = .more p') :
    decoder.outputFrom p (UInt8.ofNat n :: rest) = decoder.outputFrom p' rest := by
  have hstep : decoder.step p (UInt8.ofNat n) = some (p', []) := by
    simp only [decoder, UInt8.toNat_ofNat_of_lt' hn, h]
  rw [Transducer.outputFrom_cons_of_step _ _ _ _ _ _ hstep]
  simp only [List.nil_append, Option.map_id']

theorem outputFrom_of_char (p : Progress) (c : Char) (n : Nat) (rest : List UInt8) (hn : n < 256)
    (h : advance p n = .char c) :
    decoder.outputFrom p (UInt8.ofNat n :: rest) =
      (decoder.outputFrom .start rest).map (c :: ·) := by
  have hstep : decoder.step p (UInt8.ofNat n) = some (.start, [c]) := by
    simp only [decoder, UInt8.toNat_ofNat_of_lt' hn, h]
  rw [Transducer.outputFrom_cons_of_step _ _ _ _ _ _ hstep]
  rfl

/-! ## Reading back -/

theorem reads_two (n : Nat) (rest : List UInt8) (h : 0x80 ≤ n) (h' : n < 0x800) :
    decoder.outputFrom .start (String.utf8EncodeChar (Char.ofNat n) ++ rest) =
      (decoder.outputFrom .start rest).map (Char.ofNat n :: ·) := by
  have hfirst := first_two (0xC0 + n / 64) (by omega) (by omega)
  rw [Nat.add_sub_cancel_left, ← advance_start] at hfirst
  have hlast := advance_inside_zero (n / 64) 0x80 0xBF (0x80 + n % 64) (by omega) (by omega)
  rw [show n / 64 * 64 + (0x80 + n % 64 - 0x80) = n by omega] at hlast
  rw [encodeChar_two n h h', List.cons_append, List.cons_append, List.nil_append,
    outputFrom_of_more _ _ _ _ (by omega) hfirst, outputFrom_of_char _ _ _ _ (by omega) hlast]

theorem reads_three (n : Nat) (rest : List UInt8) (h : 0x800 ≤ n) (h' : n < 0x10000)
    (hv : n.isValidChar) :
    decoder.outputFrom .start (String.utf8EncodeChar (Char.ofNat n) ++ rest) =
      (decoder.outputFrom .start rest).map (Char.ofNat n :: ·) := by
  -- The point is put together digit by digit, in base 64.
  have hfirst := first_three (n / 4096) (by omega)
  rw [← advance_start] at hfirst
  have hnext := advance_inside_succ (n / 4096) 0 (if n / 4096 = 0 then 0xA0 else 0x80)
    (if n / 4096 = 13 then 0x9F else 0xBF) (0x80 + n / 64 % 64)
    (by split <;> omega) (by split <;> omega)
  rw [show n / 4096 * 64 + (0x80 + n / 64 % 64 - 0x80) = n / 64 by omega] at hnext
  have hlast := advance_inside_zero (n / 64) 0x80 0xBF (0x80 + n % 64) (by omega) (by omega)
  rw [show n / 64 * 64 + (0x80 + n % 64 - 0x80) = n by omega] at hlast
  rw [encodeChar_three n h h' hv, List.cons_append, List.cons_append, List.cons_append,
    List.nil_append, outputFrom_of_more _ _ _ _ (by omega) hfirst,
    outputFrom_of_more _ _ _ _ (by omega) hnext, outputFrom_of_char _ _ _ _ (by omega) hlast]

theorem reads_four (n : Nat) (rest : List UInt8) (h : 0x10000 ≤ n) (h' : n < 0x110000) :
    decoder.outputFrom .start (String.utf8EncodeChar (Char.ofNat n) ++ rest) =
      (decoder.outputFrom .start rest).map (Char.ofNat n :: ·) := by
  have hfirst := first_four (n / 262144) (by omega)
  rw [← advance_start] at hfirst
  have hsecond := advance_inside_succ (n / 262144) 1 (if n / 262144 = 0 then 0x90 else 0x80)
    (if n / 262144 = 4 then 0x8F else 0xBF) (0x80 + n / 4096 % 64)
    (by split <;> omega) (by split <;> omega)
  rw [show n / 262144 * 64 + (0x80 + n / 4096 % 64 - 0x80) = n / 4096 by omega] at hsecond
  have hthird := advance_inside_succ (n / 4096) 0 0x80 0xBF (0x80 + n / 64 % 64)
    (by omega) (by omega)
  rw [show n / 4096 * 64 + (0x80 + n / 64 % 64 - 0x80) = n / 64 by omega] at hthird
  have hlast := advance_inside_zero (n / 64) 0x80 0xBF (0x80 + n % 64) (by omega) (by omega)
  rw [show n / 64 * 64 + (0x80 + n % 64 - 0x80) = n by omega] at hlast
  rw [encodeChar_four n h h', List.cons_append, List.cons_append, List.cons_append,
    List.cons_append, List.nil_append, outputFrom_of_more _ _ _ _ (by omega) hfirst,
    outputFrom_of_more _ _ _ _ (by omega) hsecond, outputFrom_of_more _ _ _ _ (by omega) hthird,
    outputFrom_of_char _ _ _ _ (by omega) hlast]

/-- The decoder reads the bytes of a character back, whatever follows them. -/
theorem reads_encodeChar (c : Char) (rest : List UInt8) :
    decoder.outputFrom .start (String.utf8EncodeChar c ++ rest) =
      (decoder.outputFrom .start rest).map (c :: ·) := by
  have hv : c.toNat.isValidChar := c.valid
  rw [← Char.ofNat_toNat c]
  by_cases h1 : c.toNat < 0x80
  · have hfirst : advance .start c.toNat = .char (Char.ofNat c.toNat) := first_one c.toNat h1
    rw [encodeChar_one c.toNat h1, List.singleton_append,
      outputFrom_of_char _ _ _ _ (by omega) hfirst]
  by_cases h2 : c.toNat < 0x800
  · exact reads_two c.toNat rest (by omega) h2
  by_cases h3 : c.toNat < 0x10000
  · exact reads_three c.toNat rest (by omega) h3 hv
  · exact reads_four c.toNat rest (by omega) (by omega)

/-! ## What is pending -/

/-- Whatever bytes follow within the bounds, `owed` of them after the next one, they complete
    `bs` to the encoding of the character whose bits begin with `point`. -/
def Spelled (bs : List UInt8) : (owed point low high : Nat) → Prop
  | 0, point, low, high => ∀ b : UInt8, low ≤ b.toNat → b.toNat ≤ high →
    String.utf8EncodeChar (Char.ofNat (point * 64 + (b.toNat - 0x80))) = bs ++ [b]
  | owed + 1, point, low, high => ∀ b : UInt8, low ≤ b.toNat → b.toNat ≤ high →
    Spelled (bs ++ [b]) owed (point * 64 + (b.toNat - 0x80)) 0x80 0xBF

/-- The bytes that a state of the decoder stands for. -/
def Pending : Progress → List UInt8 → Prop
  | .start, bs => bs = []
  | .inside point owed low high, bs => Spelled bs owed point low high

theorem spelled_of_first_two (b : UInt8) (h : 0xC2 ≤ b.toNat) (h' : b.toNat < 0xE0) :
    Spelled [b] 0 (b.toNat - 0xC0) 0x80 0xBF := by
  intro x hx hx'
  rw [encodeChar_two _ (by omega) (by omega), Text.byte_ofNat_eq b _ (by omega),
    Text.byte_ofNat_eq x _ (by omega)]
  rfl

theorem spelled_of_first_three (b : UInt8) (h : 0xE0 ≤ b.toNat) (h' : b.toNat < 0xF0) :
    Spelled [b] 1 (b.toNat - 0xE0) (if b.toNat - 0xE0 = 0 then 0xA0 else 0x80)
      (if b.toNat - 0xE0 = 13 then 0x9F else 0xBF) := by
  intro x hx hx' y hy hy'
  have hlow : b.toNat = 0xE0 → 0xA0 ≤ x.toNat := by
    intro hb
    rwa [hb] at hx
  have hhigh : b.toNat = 0xED → x.toNat ≤ 0x9F := by
    intro hb
    rwa [hb] at hx'
  have hx80 : 0x80 ≤ x.toNat := by
    split at hx <;> omega
  have hxBF : x.toNat ≤ 0xBF := by
    split at hx' <;> omega
  -- The bounds on `x` exclude overlong forms and surrogates.
  have hv : (((b.toNat - 0xE0) * 64 + (x.toNat - 0x80)) * 64 + (y.toNat - 0x80)).isValidChar := by
    unfold Nat.isValidChar
    omega
  rw [encodeChar_three _ (by omega) (by omega) hv, Text.byte_ofNat_eq b _ (by omega),
    Text.byte_ofNat_eq x _ (by omega), Text.byte_ofNat_eq y _ (by omega)]
  rfl

theorem spelled_of_first_four (b : UInt8) (h : 0xF0 ≤ b.toNat) (h' : b.toNat < 0xF5) :
    Spelled [b] 2 (b.toNat - 0xF0) (if b.toNat - 0xF0 = 0 then 0x90 else 0x80)
      (if b.toNat - 0xF0 = 4 then 0x8F else 0xBF) := by
  intro x hx hx' y hy hy' z hz hz'
  -- Only at the two ends does the bound on `x` say more than that it continues.
  have hlow : b.toNat = 0xF0 → 0x90 ≤ x.toNat := by
    intro hb
    rwa [hb] at hx
  have hhigh : b.toNat = 0xF4 → x.toNat ≤ 0x8F := by
    intro hb
    rwa [hb] at hx'
  have hx80 : 0x80 ≤ x.toNat := by
    split at hx <;> omega
  have hxBF : x.toNat ≤ 0xBF := by
    split at hx' <;> omega
  rw [encodeChar_four _ (by omega) (by omega), Text.byte_ofNat_eq b _ (by omega),
    Text.byte_ofNat_eq x _ (by omega), Text.byte_ofNat_eq y _ (by omega),
    Text.byte_ofNat_eq z _ (by omega)]
  rfl

/-- What a first byte promises is kept by every continuation. -/
theorem pending_of_first (b : UInt8) (p : Progress) (h : first b.toNat = .more p) :
    Pending p [b] := by
  rcases first_cases b.toNat with ⟨_, heq⟩ | heq | ⟨hl, hu, heq⟩ | ⟨hl, hu, heq⟩ | ⟨hl, hu, heq⟩
  -- A character and a refused byte promise nothing.
  · rw [heq] at h
    cases h
  · rw [heq] at h
    cases h
  · rw [← Reading.more.inj (heq.symm.trans h)]
    exact spelled_of_first_two b hl hu
  · rw [← Reading.more.inj (heq.symm.trans h)]
    exact spelled_of_first_three b hl hu
  · rw [← Reading.more.inj (heq.symm.trans h)]
    exact spelled_of_first_four b hl hu

/-- Only ASCII bytes are characters on their own. -/
theorem encodeChar_of_first (b : UInt8) (c : Char) (h : first b.toNat = .char c) :
    String.utf8EncodeChar c = [b] := by
  rcases first_cases b.toNat with ⟨hb, heq⟩ | heq | ⟨_, _, heq⟩ | ⟨_, _, heq⟩ | ⟨_, _, heq⟩
  · rw [← Reading.char.inj (heq.symm.trans h), encodeChar_one _ hb, UInt8.ofNat_toNat]
  -- Every other first byte is refused or has more to come.
  all_goals
    rw [heq] at h
    cases h

theorem advance_pending (q : Progress) (bs : List UInt8) (b : UInt8) (hp : Pending q bs) :
    (∀ p, advance q b.toNat = .more p → Pending p (bs ++ [b])) ∧
      ∀ c, advance q b.toNat = .char c → String.utf8EncodeChar c = bs ++ [b] := by
  cases q with
  | start =>
      rw [show bs = [] from hp, List.nil_append]
      exact ⟨pending_of_first b, encodeChar_of_first b⟩
  | inside point owed low high =>
      by_cases hrange : low ≤ b.toNat ∧ b.toNat ≤ high
      · cases owed with
        | zero =>
            -- The last byte that was owed completes the character it was promised for.
            rw [advance_inside_zero _ _ _ _ hrange.1 hrange.2]
            refine ⟨fun p h => (by cases h), fun c h => ?_⟩
            rw [← Reading.char.inj h]
            exact hp b hrange.1 hrange.2
        | succ owed =>
            rw [advance_inside_succ _ _ _ _ _ hrange.1 hrange.2]
            refine ⟨fun p h => ?_, fun c h => (by cases h)⟩
            cases h
            exact hp b hrange.1 hrange.2
      · rw [advance_inside_of_not _ _ _ _ _ hrange]
        exact ⟨fun p h => (by cases h), fun c h => (by cases h)⟩

/-- The strict decoder undoes the encoder. -/
theorem decoder_undoes :
    Transducer.Undoes decoder (fun c => some (String.utf8EncodeChar c)) Pending where
  reads := by
    intro c block hblock rest
    rw [← Option.some.inj hblock]
    exact reads_encodeChar c rest
  ends := rfl
  starts := rfl
  steps := by
    intro q bs b q' out hp hstep
    rcases advance_pending q bs b hp with ⟨hmore, hchar⟩
    simp only [decoder] at hstep
    rcases hadv : advance q b.toNat with p | c | _
    · rw [hadv] at hstep
      cases hstep
      exact Or.inl ⟨rfl, hmore _ hadv⟩
    · rw [hadv] at hstep
      cases hstep
      exact Or.inr ⟨c, rfl, rfl, congrArg some (hchar c hadv)⟩
    · rw [hadv] at hstep
      cases hstep
  finishes := by
    intro q bs out hp hfinish
    cases q with
    | start =>
        cases hfinish
        exact ⟨rfl, hp⟩
    | inside point owed low high => cases hfinish

/-- What was written is read back. -/
theorem decode?_encode (cs : List Char) : decode? (encode cs) = some cs :=
  (decoder_undoes.run_stateless_eq_some_iff cs _).mp
    (Transducer.run_stateless_total String.utf8EncodeChar cs)

end Utf8

end BufferFormat
