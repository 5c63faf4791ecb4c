import BufferFormat.Proofs.Text.Scalar
import BufferFormat.Proofs.Transducer
import BufferFormat.Text.Utf16

/-!
# UTF-16 is undone by its decoder

The encoder works on characters and the decoder on bytes, two levels apart. In
between stand units, and the proof goes through them: `bytes_unit` and
`outputFrom_bytes` say that two bytes are a unit in either byte order, and what
remains is the arithmetic of surrogates, which knows no bytes.

The decoder holds back up to three bytes: those of a high surrogate that waits
for its partner, and the first byte of a unit. Both are kept as numbers, so
`held` can write them out again, and `Pending` only has to say that the numbers
are in range.

## Main definitions

* `held`: The bytes that the decoder holds back.
* `Pending`: A list is what the decoder holds back, and the surrogate in it is a high one.

## Theorems

* `bytes_unit`, `unit_bytes`: Two bytes are a unit, in either order.
* `outputFrom_bytes`: Reading the bytes of a unit is taking the unit.
* `reads_units`: The decoder reads the units of a character back.
* `takeUnit_pending`: What is pending grows by a unit or is a whole character.
* `decoder_undoes`: The decoder undoes the encoder.
-/

namespace BufferFormat

namespace Utf16

/-! ## Units and bytes -/

theorem bytes_unit (o : ByteOrder) (b₁ b₂ : UInt8) :
    o.bytes (o.unit b₁.toNat b₂.toNat) = [b₁, b₂] := by
  have h₁ : b₁.toNat < 256 := b₁.toNat_lt
  have h₂ : b₂.toNat < 256 := b₂.toNat_lt
  cases o with
  | little =>
      rw [ByteOrder.bytes, ByteOrder.unit, Text.byte_ofNat_eq b₁ _ (by omega),
        Text.byte_ofNat_eq b₂ _ (by omega)]
  | big =>
      rw [ByteOrder.bytes, ByteOrder.unit, Text.byte_ofNat_eq b₁ _ (by omega),
        Text.byte_ofNat_eq b₂ _ (by omega)]

theorem unit_bytes (o : ByteOrder) (u : Nat) (h : u < 0x10000) :
    ∃ b₁ b₂ : UInt8, o.bytes u = [b₁, b₂] ∧ o.unit b₁.toNat b₂.toNat = u := by
  have hhigh : (UInt8.ofNat (u / 256)).toNat = u / 256 :=
    UInt8.toNat_ofNat_of_lt' (show u / 256 < 256 by omega)
  have hlow : (UInt8.ofNat (u % 256)).toNat = u % 256 :=
    UInt8.toNat_ofNat_of_lt' (show u % 256 < 256 by omega)
  cases o with
  | little =>
      refine ⟨UInt8.ofNat (u % 256), UInt8.ofNat (u / 256), rfl, ?_⟩
      rw [ByteOrder.unit, hhigh, hlow]
      omega
  | big =>
      refine ⟨UInt8.ofNat (u / 256), UInt8.ofNat (u % 256), rfl, ?_⟩
      rw [ByteOrder.unit, hhigh, hlow]
      omega

/-- Reading the bytes of a unit is taking the unit. -/
theorem outputFrom_bytes (o : ByteOrder) (high : Option Nat) (u : Nat) (p : Progress)
    (out : List Char) (rest : List UInt8) (hu : u < 0x10000)
    (h : takeUnit high u = some (p, out)) :
    (decoder o).outputFrom ⟨high, none⟩ (o.bytes u ++ rest) =
      ((decoder o).outputFrom p rest).map (out ++ ·) := by
  rcases unit_bytes o u hu with ⟨b₁, b₂, hbytes, hunit⟩
  have hfirst : (decoder o).step ⟨high, none⟩ b₁ = some (⟨high, some b₁.toNat⟩, []) := rfl
  have hsecond : (decoder o).step ⟨high, some b₁.toNat⟩ b₂ = some (p, out) := by
    rw [← h, ← hunit]
    rfl
  rw [hbytes, List.cons_append, List.singleton_append,
    Transducer.outputFrom_cons_of_step _ _ _ _ _ _ hfirst,
    Transducer.outputFrom_cons_of_step _ _ _ _ _ _ hsecond]
  simp only [List.nil_append, Option.map_id']

/-! ## Reading back -/

theorem units_of_lt (c : Char) (h : c.toNat < 0x10000) : units c = [c.toNat] := by
  rw [units, if_pos h]

theorem units_of_le (c : Char) (h : 0x10000 ≤ c.toNat) :
    units c =
      [0xD800 + (c.toNat - 0x10000) / 0x400, 0xDC00 + (c.toNat - 0x10000) % 0x400] := by
  rw [units, if_neg (by omega)]

theorem takeUnit_none_basic (u : Nat) (h : u < 0xD800 ∨ 0xE000 ≤ u) :
    takeUnit none u = some (⟨none, none⟩, [Char.ofNat u]) := by
  simp only [takeUnit]
  rw [if_neg (by omega), if_neg (by omega)]

theorem takeUnit_none_high (u : Nat) (h : 0xD800 ≤ u ∧ u < 0xDC00) :
    takeUnit none u = some (⟨some u, none⟩, []) := by
  simp only [takeUnit]
  rw [if_pos h]

theorem takeUnit_none_low (u : Nat) (h : 0xDC00 ≤ u ∧ u < 0xE000) : takeUnit none u = none := by
  simp only [takeUnit]
  rw [if_neg (by omega), if_pos h]

theorem takeUnit_some_low (high u : Nat) (h : 0xDC00 ≤ u ∧ u < 0xE000) :
    takeUnit (some high) u = some (⟨none, none⟩,
      [Char.ofNat (0x10000 + (high - 0xD800) * 0x400 + (u - 0xDC00))]) := by
  simp only [takeUnit]
  rw [if_pos h]

theorem takeUnit_some_other (high u : Nat) (h : ¬(0xDC00 ≤ u ∧ u < 0xE000)) :
    takeUnit (some high) u = none := by
  simp only [takeUnit]
  rw [if_neg h]

/-- The decoder reads the units of a character back, whatever follows them. -/
theorem reads_units (o : ByteOrder) (c : Char) (rest : List UInt8) :
    (decoder o).outputFrom ⟨none, none⟩ ((units c).flatMap o.bytes ++ rest) =
      ((decoder o).outputFrom ⟨none, none⟩ rest).map (c :: ·) := by
  have hv : c.toNat.isValidChar := c.valid
  by_cases hc : c.toNat < 0x10000
  · have htake := takeUnit_none_basic c.toNat (by omega)
    rw [Char.ofNat_toNat] at htake
    rw [units_of_lt c hc, List.flatMap_singleton,
      outputFrom_bytes o none c.toNat _ _ rest hc htake]
    rfl
  · -- Outside of the basic plane the pair waits once and is then one character.
    have hhigh := takeUnit_none_high (0xD800 + (c.toNat - 0x10000) / 0x400) (by omega)
    have hlow := takeUnit_some_low (0xD800 + (c.toNat - 0x10000) / 0x400)
      (0xDC00 + (c.toNat - 0x10000) % 0x400) (by omega)
    rw [show 0x10000 + (0xD800 + (c.toNat - 0x10000) / 0x400 - 0xD800) * 0x400 +
        (0xDC00 + (c.toNat - 0x10000) % 0x400 - 0xDC00) = c.toNat by omega,
      Char.ofNat_toNat] at hlow
    rw [units_of_le c (by omega), List.flatMap_cons, List.flatMap_singleton, List.append_assoc,
      outputFrom_bytes o none _ _ _ _ (by omega) hhigh,
      outputFrom_bytes o _ _ _ _ rest (by omega) hlow]
    simp only [List.nil_append, Option.map_id', List.singleton_append]

/-! ## What is pending -/

/-- The bytes that the decoder holds back: a high surrogate, then the first byte of a unit. -/
def held (o : ByteOrder) (p : Progress) : List UInt8 :=
  p.high.toList.flatMap o.bytes ++ p.byte.toList.map UInt8.ofNat

/-- The bytes that a state of the decoder stands for. -/
structure Pending (o : ByteOrder) (p : Progress) (bs : List UInt8) : Prop where
  eq_held : bs = held o p
  high_range : ∀ u, p.high = some u → 0xD800 ≤ u ∧ u < 0xDC00
  byte_range : ∀ b, p.byte = some b → b < 256

theorem pending_start (o : ByteOrder) : Pending o ⟨none, none⟩ [] :=
  ⟨rfl, fun _ h => (by cases h), fun _ h => (by cases h)⟩

/-- A unit taken after `high` completes a character, or is a high surrogate that waits. -/
theorem takeUnit_pending (o : ByteOrder) (high : Option Nat) (u : Nat) (p : Progress)
    (out : List Char) (hu : u < 0x10000) (hhigh : ∀ h, high = some h → 0xD800 ≤ h ∧ h < 0xDC00)
    (h : takeUnit high u = some (p, out)) :
    (out = [] ∧ Pending o p (high.toList.flatMap o.bytes ++ o.bytes u)) ∨
      ∃ c, out = [c] ∧ p = ⟨none, none⟩ ∧
        (units c).flatMap o.bytes = high.toList.flatMap o.bytes ++ o.bytes u := by
  cases high with
  | none =>
      by_cases hsurrogate : 0xD800 ≤ u ∧ u < 0xDC00
      · -- A high surrogate waits for its partner.
        rw [takeUnit_none_high u hsurrogate] at h
        cases h
        refine Or.inl ⟨rfl, ?_, ?_, fun _ hb => (by cases hb)⟩
        · rw [held, Option.toList_none, List.flatMap_nil, List.nil_append, Option.toList_some,
            List.flatMap_singleton, List.map_nil, List.append_nil]
        · intro h' heq
          rw [← Option.some.inj heq]
          exact hsurrogate
      by_cases hlow : 0xDC00 ≤ u ∧ u < 0xE000
      · -- A low one has no partner to complete.
        rw [takeUnit_none_low u hlow] at h
        cases h
      · rw [takeUnit_none_basic u (by omega)] at h
        cases h
        have hnat : (Char.ofNat u).toNat = u :=
          Text.toNat_ofNat u (by unfold Nat.isValidChar; omega)
        refine Or.inr ⟨Char.ofNat u, rfl, rfl, ?_⟩
        rw [units_of_lt _ (by omega), hnat, List.flatMap_singleton, Option.toList_none,
          List.flatMap_nil, List.nil_append]
  | some high =>
      by_cases hlow : 0xDC00 ≤ u ∧ u < 0xE000
      · rw [takeUnit_some_low high u hlow] at h
        cases h
        rcases hhigh high rfl with ⟨hl, hr⟩
        -- Splitting the point of the pair gives both surrogates again.
        have hnat := Text.toNat_ofNat (0x10000 + (high - 0xD800) * 0x400 + (u - 0xDC00))
          (by unfold Nat.isValidChar; omega)
        refine Or.inr ⟨_, rfl, rfl, ?_⟩
        rw [units_of_le _ (by omega), hnat, List.flatMap_cons, List.flatMap_singleton,
          Option.toList_some, List.flatMap_singleton,
          show 0xD800 + (0x10000 + (high - 0xD800) * 0x400 + (u - 0xDC00) - 0x10000) / 0x400 =
            high by omega,
          show 0xDC00 + (0x10000 + (high - 0xD800) * 0x400 + (u - 0xDC00) - 0x10000) % 0x400 =
            u by omega]
      · -- Nothing but a low surrogate may follow a high one.
        rw [takeUnit_some_other high u hlow] at h
        cases h

/-- The decoder undoes the encoder, in either byte order. -/
theorem decoder_undoes (o : ByteOrder) :
    Transducer.Undoes (decoder o) (fun c => some ((units c).flatMap o.bytes)) (Pending o) where
  reads := by
    intro c block hblock rest
    rw [← Option.some.inj hblock]
    exact reads_units o c rest
  ends := rfl
  starts := pending_start o
  steps := by
    intro q bs b q' out hp hstep
    rcases q with ⟨high, _ | b₁⟩
    · -- The first byte of a unit is held back.
      cases hstep
      refine Or.inl ⟨rfl, ?_, hp.high_range, ?_⟩
      · rw [hp.eq_held, held, held, Option.toList_none, List.map_nil, List.append_nil,
          Option.toList_some, List.map_singleton, UInt8.ofNat_toNat]
      · intro x hx
        rw [← Option.some.inj hx]
        exact b.toNat_lt
    · -- The second byte completes the unit.
      have hb₁ : b₁ < 256 := hp.byte_range b₁ rfl
      have hunit : o.bytes (o.unit b₁ b.toNat) = [UInt8.ofNat b₁, b] := by
        rw [← bytes_unit o (UInt8.ofNat b₁) b, UInt8.toNat_ofNat_of_lt' hb₁]
      have hlt : o.unit b₁ b.toNat < 0x10000 := by
        have hb : b.toNat < 256 := b.toNat_lt
        cases o <;> simp only [ByteOrder.unit] <;> omega
      have hall : bs ++ [b] = high.toList.flatMap o.bytes ++ o.bytes (o.unit b₁ b.toNat) := by
        rw [hp.eq_held, held, hunit, Option.toList_some, List.map_singleton, List.append_assoc,
          List.singleton_append]
      rw [hall]
      rcases takeUnit_pending o high _ q' out hlt hp.high_range hstep with h | ⟨c, hout, hq, hc⟩
      · exact Or.inl h
      · exact Or.inr ⟨c, hout, hq, congrArg some hc⟩
  finishes := by
    intro q bs out hp hfinish
    rcases q with ⟨_ | high, _ | b₁⟩
    · cases hfinish
      exact ⟨rfl, hp.eq_held⟩
    -- Half a unit or half a pair may not end the input.
    all_goals cases hfinish

end Utf16

end BufferFormat
