import BufferFormat.Text.Decimal

/-!
# Reading written numbers

A number that is written in decimal digits is read back as itself. Reading takes
up one digit after the other from the left, which is also how the library says
what number some digits are, so the two agree digit by digit.

A number is written in its canonical form, with no zero in front. Integers are
written in the same digits, behind a minus if they are negative, so everything
about them is a fact about the digits of a natural number.

## Main definitions

* `Text.Canonical`: The canonical form of a number.

## Theorems

* `Text.naturalFrom?_of_isDigit`: Digits are read as the number that they are.
* `Text.natural?_toString`: A written number is read back.
* `Text.canonical_toString`: A number is written in its canonical form.
* `Text.toList_toString_of_nonneg`, `Text.toList_toString_of_neg`: How an integer
  is written.
-/

namespace BufferFormat

namespace Text

theorem digit?_of_isDigit {c : Char} (h : c.isDigit = true) :
    digit? c = some (c.toNat - '0'.toNat) := by
  rw [Char.isDigit, Bool.and_eq_true, decide_eq_true_eq, decide_eq_true_eq] at h
  exact if_pos h

/-- Digits are read as the number that they are, whatever was read before them. -/
theorem naturalFrom?_of_isDigit {cs : List Char} (h : ∀ c ∈ cs, c.isDigit = true) (n : Nat) :
    naturalFrom? n cs = some (Nat.ofDigitChars 10 cs n) := by
  induction cs generalizing n with
  | nil => rfl
  | cons c cs ih =>
      have htail : ∀ d ∈ cs, d.isDigit = true := fun d hd => h d (List.mem_cons_of_mem c hd)
      rw [naturalFrom?, digit?_of_isDigit (h c List.mem_cons_self), Option.bind_some, ih htail,
        Nat.ofDigitChars_cons, Nat.mul_comm n 10]

/-- A written number is read back. -/
theorem natural?_toString (n : Nat) : natural? (toString n).toList = some n := by
  rw [Nat.toString_eq_repr, Nat.repr_eq_ofList_toDigits, String.toList_ofList]
  have hread : naturalFrom? 0 (Nat.toDigits 10 n) = some n := by
    rw [naturalFrom?_of_isDigit fun c hc => Nat.isDigit_of_mem_toDigits (by decide) (by decide) hc,
      Nat.ofDigitChars_ten_toDigits]
  match hdigits : Nat.toDigits 10 n with
  | [] => exact absurd hdigits Nat.toDigits_ne_nil
  | c :: cs =>
      rw [hdigits] at hread
      exact hread

/-! ## Canonical form -/

/-- The canonical form of a number: digits and nothing else, of which the first
    is zero only for zero itself, and all of them are needed to read it back. -/
structure Canonical (text : String) (n : Nat) : Prop where
  digits : ∀ c ∈ text.toList, c.isDigit = true
  leading : text.toList.head? = some '0' → text = "0"
  value : natural? text.toList = some n

theorem isDigit_of_mem_toDigits {n : Nat} {c : Char} (h : c ∈ Nat.toDigits 10 n) :
    c.isDigit = true :=
  Nat.isDigit_of_mem_toDigits (by decide) (by decide) h

/-- Only zero begins with a zero. -/
theorem head?_toDigits {n : Nat} (h : 0 < n) : (Nat.toDigits 10 n).head? ≠ some '0' := by
  induction n using Nat.strongRecOn with
  | ind n ih =>
      rw [Nat.toDigits_eq_if (by decide)]
      by_cases hn : n < 10
      · rw [if_pos hn, List.head?_cons, Ne, Option.some.injEq, Nat.digitChar_eq_zero]
        omega
      · -- There are digits in front of the last one, and they write a smaller number.
        have hfront := ih (n / 10) (by omega) (by omega)
        rcases List.exists_cons_of_ne_nil (Nat.toDigits_ne_nil (n := n / 10) (b := 10)) with
          ⟨c, cs, hdigits⟩
        rw [hdigits] at hfront
        rw [if_neg hn, hdigits]
        exact hfront

/-- The digits of a number from the first one on, which is zero only for zero itself. -/
theorem exists_toDigits (n : Nat) :
    ∃ c cs, Nat.toDigits 10 n = c :: cs ∧ (∀ d ∈ c :: cs, d.isDigit = true) ∧ (c = '0' → n = 0) := by
  rcases List.exists_cons_of_ne_nil (Nat.toDigits_ne_nil (n := n) (b := 10)) with ⟨c, cs, hdigits⟩
  refine ⟨c, cs, hdigits, fun d hd => isDigit_of_mem_toDigits (hdigits ▸ hd), fun hc => ?_⟩
  refine Nat.eq_zero_of_not_pos fun hpos => head?_toDigits hpos ?_
  rw [hdigits, hc]
  rfl

/-- A number is written in its canonical form. -/
theorem canonical_toString (n : Nat) : Canonical (toString n) n where
  digits := by
    intro c hc
    rw [Nat.toString_eq_repr, Nat.repr_eq_ofList_toDigits, String.toList_ofList] at hc
    exact isDigit_of_mem_toDigits hc
  leading := by
    intro hzero
    rw [Nat.toString_eq_repr, Nat.repr_eq_ofList_toDigits, String.toList_ofList] at hzero
    by_cases hn : 0 < n
    · exact absurd hzero (head?_toDigits hn)
    · rw [Nat.eq_zero_of_not_pos hn]
      rfl
  value := natural?_toString n

/-! ## Integers -/

theorem toList_toString_of_nonneg {i : Int} (h : 0 ≤ i) :
    (toString i).toList = Nat.toDigits 10 i.toNat := by
  rw [Int.toString_eq_repr, Int.repr_eq_if, if_pos h, Nat.repr_eq_ofList_toDigits,
    String.toList_ofList]

theorem toList_toString_of_neg {i : Int} (h : i < 0) :
    (toString i).toList = '-' :: Nat.toDigits 10 (-i).toNat := by
  rw [Int.toString_eq_repr, Int.repr_eq_if, if_neg (by omega), Nat.repr_eq_ofList_toDigits,
    String.toList_append, String.toList_ofList, String.toList_ofList]
  rfl

/-- What is not negative is written like a natural number. -/
theorem toString_of_nonneg {i : Int} (h : 0 ≤ i) : toString i = toString i.toNat := by
  rw [Int.toString_eq_repr, Int.repr_eq_if, if_pos h, Nat.toString_eq_repr]

end Text

end BufferFormat
