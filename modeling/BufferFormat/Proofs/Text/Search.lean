import BufferFormat.Text.Search

/-!
# Searching finds blocks

The search of `Text.Search` tries every place of a list in turn. What it decides is a relation that
the library of lists has a name for, and from here on only that relation is used.

## Theorems

* `stripPrefix?_eq_some_iff`: What is stripped is a beginning.
* `occursIn_iff`: What occurs is a block.
-/

namespace BufferFormat

namespace Text

variable {α : Type} [BEq α] [LawfulBEq α]

/-- What is stripped is a beginning. -/
theorem stripPrefix?_eq_some_iff (pre cs rest : List α) :
    stripPrefix? pre cs = some rest ↔ cs = pre ++ rest := by
  induction pre generalizing cs with
  | nil => simp only [stripPrefix?, Option.some.injEq, List.nil_append]
  | cons p pre ih =>
      cases cs with
      | nil => simp only [stripPrefix?, List.cons_append, reduceCtorEq]
      | cons c cs =>
          by_cases hc : p = c
          · simp only [stripPrefix?, hc, beq_self_eq_true, if_true, ih, List.cons_append,
              List.cons.injEq, true_and]
          · simp only [stripPrefix?, beq_eq_false_iff_ne.mpr hc, Bool.false_eq_true, if_false,
              List.cons_append, List.cons.injEq, Ne.symm hc, false_and, reduceCtorEq]

/-- Something can be stripped exactly from what begins with it. -/
theorem isSome_stripPrefix?_iff (pre cs : List α) :
    (stripPrefix? pre cs).isSome = true ↔ pre <+: cs := by
  rw [Option.isSome_iff_exists]
  simp only [stripPrefix?_eq_some_iff]
  exact exists_congr fun rest => eq_comm

/-- What occurs in a list is a block of it. -/
theorem occursIn_iff (needle cs : List α) : occursIn needle cs = true ↔ needle <:+: cs := by
  induction cs with
  | nil => rw [occursIn, List.isEmpty_iff, List.infix_nil]
  | cons c cs ih =>
      -- A block begins at the first character or behind it.
      rw [occursIn, Bool.or_eq_true, isSome_stripPrefix?_iff, ih, List.infix_cons_iff]

end Text

end BufferFormat
