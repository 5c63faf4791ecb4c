import BufferFormat.Text.Split

/-!
# Pieces between separators

What is cut at a separator has no separator in it, and cutting undoes joining. Paths are cut at
slashes and texts at line feeds, so facts about spelled paths and about lines both begin here.

## Theorems

* `splitAt_append`: A separator ends a piece.
* `not_mem_of_mem_splitAt`: There is no separator in a piece.
* `mem_iff_mem_splitAt`: Nothing but separators is lost.
* `splitAt_joinWith`: Pieces that were joined are found again.
* `joinWith_splitAt`: Pieces that were cut make up the text again.
* `length_splitAt_le`: There are not many more pieces than characters.
-/

namespace BufferFormat

namespace Text

theorem splitAt_ne_nil (sep : Char) (cs : List Char) : splitAt sep cs ≠ [] := by
  cases cs with
  | nil => exact nofun
  | cons c cs =>
      unfold splitAt
      split
      · exact nofun
      · split <;> exact nofun

/-- A separator at the front ends an empty piece. -/
theorem splitAt_cons_self (sep : Char) (cs : List Char) :
    splitAt sep (sep :: cs) = [] :: splitAt sep cs :=
  if_pos (beq_self_eq_true sep)

/-- Any other character belongs to the first piece. -/
theorem splitAt_cons_of_ne {sep c : Char} (h : c ≠ sep) (cs : List Char) :
    ∃ piece pieces, splitAt sep cs = piece :: pieces ∧
      splitAt sep (c :: cs) = (c :: piece) :: pieces := by
  cases hpieces : splitAt sep cs with
  | nil => exact absurd hpieces (splitAt_ne_nil sep cs)
  | cons piece pieces =>
      refine ⟨piece, pieces, rfl, ?_⟩
      rw [splitAt, if_neg (fun hc => h (beq_iff_eq.mp hc)), hpieces]

/-- A separator ends a piece. -/
theorem splitAt_append (sep : Char) (before after : List Char) :
    splitAt sep (before ++ sep :: after) = splitAt sep before ++ splitAt sep after := by
  induction before with
  | nil =>
      rw [List.nil_append, splitAt_cons_self]
      rfl
  | cons c cs ih =>
      rw [List.cons_append, splitAt, splitAt, ih]
      split
      · rfl
      · cases hpieces : splitAt sep cs with
        | nil => exact absurd hpieces (splitAt_ne_nil sep cs)
        | cons piece pieces => rfl

/-- Without a separator there is one piece. -/
theorem splitAt_of_not_mem {sep : Char} {cs : List Char} (h : sep ∉ cs) :
    splitAt sep cs = [cs] := by
  induction cs with
  | nil => rfl
  | cons c cs ih =>
      rw [List.mem_cons, not_or] at h
      rw [splitAt, if_neg (fun hc => h.1 (beq_iff_eq.mp hc).symm), ih h.2]

/-- There is no separator in a piece. -/
theorem not_mem_of_mem_splitAt {sep : Char} {cs piece : List Char}
    (h : piece ∈ splitAt sep cs) : sep ∉ piece := by
  induction cs generalizing piece with
  | nil =>
      rw [List.mem_singleton.mp h]
      exact List.not_mem_nil
  | cons c cs ih =>
      by_cases hc : c = sep
      · rw [hc, splitAt_cons_self] at h
        rcases List.mem_cons.mp h with rfl | hrest
        · exact List.not_mem_nil
        · exact ih hrest
      · rcases splitAt_cons_of_ne hc cs with ⟨first, pieces, hpieces, hcons⟩
        rw [hcons] at h
        rw [hpieces] at ih
        rcases List.mem_cons.mp h with rfl | hrest
        · rw [List.mem_cons, not_or]
          exact ⟨Ne.symm hc, ih List.mem_cons_self⟩
        · exact ih (List.mem_cons_of_mem first hrest)

/-- Everything but separators is in some piece. -/
theorem mem_iff_mem_splitAt {sep c : Char} (hc : c ≠ sep) (cs : List Char) :
    c ∈ cs ↔ ∃ piece ∈ splitAt sep cs, c ∈ piece := by
  induction cs with
  | nil => simp only [splitAt, List.mem_singleton, exists_eq_left]
  | cons d cs ih =>
      by_cases hd : d = sep
      · rw [hd, splitAt_cons_self, List.mem_cons, ih]
        simp only [hc, false_or, List.mem_cons, exists_eq_or_imp, List.not_mem_nil]
      · rcases splitAt_cons_of_ne hd cs with ⟨piece, pieces, hpieces, hcons⟩
        rw [hpieces] at ih
        rw [hcons, List.mem_cons, ih]
        simp only [List.mem_cons, exists_eq_or_imp, or_assoc]

/-- Pieces that were joined are found again. -/
theorem splitAt_joinWith {sep : Char} {pieces : List (List Char)} (hne : pieces ≠ [])
    (h : ∀ piece ∈ pieces, sep ∉ piece) : splitAt sep (joinWith sep pieces) = pieces := by
  induction pieces with
  | nil => exact absurd rfl hne
  | cons piece rest ih =>
      rw [List.forall_mem_cons] at h
      cases rest with
      | nil => exact splitAt_of_not_mem h.1
      | cons next rest =>
          rw [joinWith, splitAt_append, splitAt_of_not_mem h.1, ih nofun h.2]
          · rfl
          · exact nofun

/-- Pieces that were cut make up the text again. -/
theorem joinWith_splitAt (sep : Char) (cs : List Char) : joinWith sep (splitAt sep cs) = cs := by
  induction cs with
  | nil => rfl
  | cons c cs ih =>
      by_cases hc : c = sep
      · rw [hc, splitAt_cons_self, joinWith, ih, List.nil_append]
        exact splitAt_ne_nil sep cs
      · rcases splitAt_cons_of_ne hc cs with ⟨piece, pieces, hpieces, hcons⟩
        rw [hpieces] at ih
        rw [hcons]
        match pieces with
        | [] => exact congrArg (c :: ·) ih
        | _ :: _ => exact congrArg (c :: ·) ih

/-- There are not many more pieces than characters. -/
theorem length_splitAt_le (sep : Char) (cs : List Char) :
    (splitAt sep cs).length ≤ cs.length + 1 := by
  induction cs with
  | nil => exact Nat.le_refl 1
  | cons c cs ih =>
      by_cases hc : c = sep
      · rw [hc, splitAt_cons_self, List.length_cons, List.length_cons]
        omega
      · rcases splitAt_cons_of_ne hc cs with ⟨piece, pieces, hpieces, hcons⟩
        rw [hpieces, List.length_cons] at ih
        rw [hcons, List.length_cons, List.length_cons]
        omega

end Text

end BufferFormat
