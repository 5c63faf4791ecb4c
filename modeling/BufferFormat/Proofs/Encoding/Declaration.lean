import BufferFormat.Encoding.Declaration
import BufferFormat.Proofs.Text.Search
import BufferFormat.Proofs.Text.Split
import Mathlib.Data.List.TakeDrop
import Mathlib.Data.List.TakeWhile

/-!
# Which declaration a text has

A declaration is found by scanning: at every place of a line the scanner tries to read the keyword
and what must follow it, and it goes on by one character where that fails. What it finds can be said
without the scanner. A line has a declaration behind some beginning if it can be cut into that
beginning, the keyword, a separator, blanks, a label and the rest, where the rest does not go on
with the label. Of all cuts, the one with the shortest beginning counts.

A beginning can be cut in one way only, because no blank is part of a label: the blanks end where
the label starts. So there is nothing to try again within one place, and a try that fails there says
that no cut begins there.

The lines are those between line feeds, less a carriage return before each line feed, and only the
first two of them count.

## Main definitions

* `Text.lines`: All lines of a text.
* `Declaration.Cut`: A line cut into a declaration and what stands around it.
* `Declaration.First`: The cut of a line that counts.

## Theorems

* `isLabelChar_of_isBlank`: No blank is part of a label.
* `labelHere?_eq_some_iff`: A label is read exactly where there is a cut.
* `inLine?_eq_some_iff`, `inLine?_eq_none_iff`: The label of a line is that of its first cut.
* `findSome?_leadingLines`: The lines that are looked at are the first ones of all.
* `declared_iff_cut`: The label of a text is that of the first of two lines that has a cut.
-/

namespace BufferFormat

namespace Text

/-- The lines of a text: what stands between line feeds, less one carriage return before each line
    feed. Behind a line feed at the very end there is an empty line. -/
def lines (cs : List Char) : List (List Char) :=
  match (splitAt '\n' cs).reverse with
  | [] => []
  | last :: before => before.reverse.map dropReturn ++ [last]

/-- A text without a line feed is one line. -/
theorem lines_of_not_mem {cs : List Char} (h : '\n' ∉ cs) : lines cs = [cs] := by
  rw [lines, splitAt_of_not_mem h]
  rfl

/-- The line before the first line feed comes first. -/
theorem lines_append {line : List Char} (h : '\n' ∉ line) (rest : List Char) :
    lines (line ++ '\n' :: rest) = dropReturn line :: lines rest := by
  rw [lines, lines, splitAt_append, splitAt_of_not_mem h, List.reverse_append]
  cases hpieces : (splitAt '\n' rest).reverse with
  | nil => exact absurd (List.reverse_eq_nil_iff.mp hpieces) (splitAt_ne_nil _ _)
  | cons last before =>
      simp only [List.reverse_singleton, List.cons_append, List.reverse_append, List.nil_append,
        List.map_cons]

/-- The first line of a text that is not empty, and what follows it. Without a line feed there is
    nothing more. -/
theorem nextLine_cases (cs : List Char) :
    ('\n' ∉ cs ∧ nextLine cs = (cs, [])) ∨
      ∃ line rest, '\n' ∉ line ∧ cs = line ++ '\n' :: rest ∧
        nextLine cs = (dropReturn line, rest) := by
  have hcut : cs.takeWhile (· != '\n') ++ cs.dropWhile (· != '\n') = cs :=
    List.takeWhile_append_dropWhile
  have hline : '\n' ∉ cs.takeWhile (· != '\n') := fun h =>
    absurd (List.mem_takeWhile_imp h) (by decide)
  rw [nextLine, List.span_eq_takeWhile_dropWhile]
  cases hdrop : cs.dropWhile (· != '\n') with
  | nil =>
      rw [hdrop, List.append_nil] at hcut
      rw [hcut] at hline
      exact Or.inl ⟨hline, by simp only [hcut]⟩
  | cons c rest =>
      -- Dropping stops at a line feed.
      have hc : c = '\n' := by
        have hstop := List.head?_dropWhile_not (· != '\n') cs
        rw [hdrop] at hstop
        exact bne_eq_false_iff_eq.mp hstop
      subst hc
      exact Or.inr ⟨_, rest, hline, hdrop ▸ hcut.symm, rfl⟩

/-- The lines that are looked at first are the first ones of all. An empty line at the end is left
    out, which makes no difference to a search that finds nothing in it. -/
theorem findSome?_leadingLines {α : Type} (f : List Char → Option α) (hempty : f [] = none)
    (n : Nat) (cs : List Char) :
    (leadingLines n cs).findSome? f = ((lines cs).take n).findSome? f := by
  induction n generalizing cs with
  | zero => rfl
  | succ n ih =>
      cases cs with
      | nil =>
          rw [lines_of_not_mem List.not_mem_nil]
          simp only [leadingLines, List.findSome?_nil, List.take_succ_cons, List.take_nil,
            List.findSome?_cons, hempty]
      | cons c cs =>
          rw [leadingLines]
          rcases nextLine_cases (c :: cs) with ⟨hnone, hnext⟩ | ⟨line, rest, hline, htext, hnext⟩
          · rw [hnext, lines_of_not_mem hnone]
            cases n <;> rfl
          · rw [hnext, htext, lines_append hline, List.take_succ_cons, List.findSome?_cons,
              List.findSome?_cons, ih]

end Text

namespace Declaration

/-! ## One place of a line -/

/-- A line cut into a declaration and what stands around it: a beginning, the keyword, a separator,
    blanks, a label, and a rest that does not go on with the label. -/
def Cut (line before label : List Char) : Prop :=
  ∃ (separator : Char) (blanks rest : List Char),
    line = before ++ "coding".toList ++ separator :: (blanks ++ label ++ rest) ∧
      (separator = ':' ∨ separator = '=') ∧ (∀ c ∈ blanks, Text.isBlank c = true) ∧
      label ≠ [] ∧ (∀ c ∈ label, isLabelChar c = true) ∧
      ∀ c ∈ rest.head?, isLabelChar c = false

/-- The code points of blanks, from the lowest to the highest. -/
def blankPoints : List Nat :=
  [0x09, 0x0A, 0x0B, 0x0C, 0x0D, 0x20, 0x85, 0xA0, 0x1680, 0x2000, 0x2001, 0x2002, 0x2003, 0x2004,
    0x2005, 0x2006, 0x2007, 0x2008, 0x2009, 0x200A, 0x2028, 0x2029, 0x202F, 0x205F, 0x3000]

theorem toNat_mem_blankPoints {c : Char} (h : Text.isBlank c = true) : c.toNat ∈ blankPoints := by
  simp only [Text.isBlank, Bool.or_eq_true, Bool.and_eq_true, decide_eq_true_eq,
    beq_iff_eq] at h
  simp only [blankPoints, List.mem_cons, List.not_mem_nil, or_false]
  omega

/-- No blank is part of a label. -/
theorem isLabelChar_of_isBlank {c : Char} (h : Text.isBlank c = true) : isLabelChar c = false := by
  have hpoints : ∀ n ∈ blankPoints,
      n ≠ '-'.toNat ∧ n ≠ '.'.toNat ∧ Text.inRanges n Text.wordRanges = false := by
    decide +kernel
  rcases hpoints c.toNat (toNat_mem_blankPoints h) with ⟨hhyphen, hdot, hword⟩
  simp only [isLabelChar, Text.isWord, hword, Bool.or_false, Bool.or_eq_false_iff,
    beq_eq_false_iff_ne]
  exact ⟨fun hc => hhyphen (congrArg Char.toNat hc), fun hc => hdot (congrArg Char.toNat hc)⟩

/-- A label is read where a separator, blanks and the label follow. -/
theorem labelAfter?_eq_some_iff (cs label : List Char) :
    labelAfter? cs = some label ↔
      ∃ (separator : Char) (blanks rest : List Char),
        cs = separator :: (blanks ++ label ++ rest) ∧
          (separator = ':' ∨ separator = '=') ∧ (∀ c ∈ blanks, Text.isBlank c = true) ∧
          label ≠ [] ∧ (∀ c ∈ label, isLabelChar c = true) ∧
          ∀ c ∈ rest.head?, isLabelChar c = false := by
  constructor
  · intro h
    cases cs with
    | nil => cases h
    | cons separator cs =>
        rw [labelAfter?] at h
        split at h
        · rename_i hseparator
          rw [Bool.or_eq_true, beq_iff_eq, beq_iff_eq] at hseparator
          split at h
          · cases h
          · rename_i hfound
            obtain rfl := Option.some.inj h
            refine ⟨separator, cs.takeWhile Text.isBlank,
              (cs.dropWhile Text.isBlank).dropWhile isLabelChar, ?_, hseparator,
              fun c hc => List.mem_takeWhile_imp hc, hfound, ?_, ?_⟩
            · rw [List.append_assoc, List.takeWhile_append_dropWhile,
                List.takeWhile_append_dropWhile]
            · exact fun c hc => List.mem_takeWhile_imp hc
            · intro c hc
              have hstop := List.head?_dropWhile_not isLabelChar (cs.dropWhile Text.isBlank)
              rw [Option.mem_def.mp hc] at hstop
              exact hstop
        · cases h
  · rintro ⟨separator, blanks, rest, rfl, hseparator, hblanks, hne, hlabel, hrest⟩
    -- The blanks end where the label starts, and the label ends where the rest starts.
    have hstart : (label ++ rest).dropWhile Text.isBlank = label ++ rest := by
      cases label with
      | nil => exact absurd rfl hne
      | cons c label =>
          have hc : ¬Text.isBlank c = true := fun hblank => by
            have hnot := isLabelChar_of_isBlank hblank
            rw [hlabel c List.mem_cons_self] at hnot
            cases hnot
          exact List.dropWhile_cons_of_neg hc
    have hend : rest.takeWhile isLabelChar = [] := by
      cases rest with
      | nil => rfl
      | cons c rest =>
          have hc := hrest c rfl
          exact List.takeWhile_cons_of_neg (by rw [hc]; exact Bool.false_ne_true)
    have htry : (separator == ':' || separator == '=') = true := by
      rw [Bool.or_eq_true, beq_iff_eq, beq_iff_eq]
      exact hseparator
    rw [labelAfter?, if_pos htry, List.append_assoc, List.dropWhile_append_of_pos hblanks, hstart,
      List.takeWhile_append_of_pos hlabel, hend, List.append_nil]
    cases label with
    | nil => exact absurd rfl hne
    | cons c label => rfl

/-- A label is read at the beginning of a line exactly where the line can be cut there. -/
theorem labelHere?_eq_some_iff (line label : List Char) :
    labelHere? line = some label ↔ Cut line [] label := by
  rw [labelHere?, Option.bind_eq_some_iff]
  constructor
  · rintro ⟨rest, hprefix, hlabel⟩
    rcases (labelAfter?_eq_some_iff rest label).mp hlabel with ⟨separator, blanks, rest', rfl, h⟩
    exact ⟨separator, blanks, rest', (Text.stripPrefix?_eq_some_iff _ _ _).mp hprefix, h⟩
  · rintro ⟨separator, blanks, rest, hline, h⟩
    exact ⟨_, (Text.stripPrefix?_eq_some_iff _ _ _).mpr hline,
      (labelAfter?_eq_some_iff _ _).mpr ⟨separator, blanks, rest, rfl, h⟩⟩

/-! ## One line -/

/-- A cut behind a first character is a cut of what follows that character. -/
theorem cut_cons_iff (c b : Char) (line before label : List Char) :
    Cut (c :: line) (b :: before) label ↔ c = b ∧ Cut line before label := by
  simp only [Cut, List.cons_append, List.cons.injEq, and_assoc, exists_and_left]

/-- Nothing can be cut out of an empty line. -/
theorem not_cut_nil (before label : List Char) : ¬Cut [] before label := by
  rintro ⟨separator, blanks, rest, hline, _⟩
  exact absurd hline.symm (List.append_ne_nil_of_right_ne_nil _ nofun)

/-- The cut of a line that counts: no other has a shorter beginning. -/
def First (line label : List Char) : Prop :=
  ∃ before, Cut line before label ∧
    ∀ before' label', Cut line before' label' → before.length ≤ before'.length

/-- Where a line can be cut at its beginning, that is its first cut. -/
theorem first_of_cut_nil {line label : List Char} (h : Cut line [] label) : First line label :=
  ⟨[], h, fun _ _ _ => Nat.zero_le _⟩

/-- Where it cannot, the first cut is that of what follows the first character. -/
theorem first_cons_iff {c : Char} {line : List Char} (h : ∀ label, ¬Cut (c :: line) [] label)
    (label : List Char) : First (c :: line) label ↔ First line label := by
  constructor
  · rintro ⟨_ | ⟨b, before⟩, hcut, hleast⟩
    · exact absurd hcut (h label)
    · refine ⟨before, ((cut_cons_iff _ _ _ _ _).mp hcut).2, fun before' label' hcut' => ?_⟩
      exact Nat.le_of_succ_le_succ
        (hleast (c :: before') label' ((cut_cons_iff _ _ _ _ _).mpr ⟨rfl, hcut'⟩))
  · rintro ⟨before, hcut, hleast⟩
    refine ⟨c :: before, (cut_cons_iff _ _ _ _ _).mpr ⟨rfl, hcut⟩, ?_⟩
    rintro (_ | ⟨b, before'⟩) label' hcut'
    · exact absurd hcut' (h label')
    · exact Nat.succ_le_succ (hleast before' label' ((cut_cons_iff _ _ _ _ _).mp hcut').2)

/-- The label that is read at the beginning of a line is the only one that can be cut out there. -/
theorem eq_of_cut_nil {line label label' : List Char} (h : labelHere? line = some label)
    (hcut : Cut line [] label') : label = label' :=
  Option.some.inj (h.symm.trans ((labelHere?_eq_some_iff _ _).mpr hcut))

/-- The label of a line is that of its first cut. -/
theorem inLine?_eq_some_iff (line label : List Char) :
    inLine? line = some label ↔ First line label := by
  induction line with
  | nil =>
      refine ⟨nofun, ?_⟩
      rintro ⟨before, hcut, _⟩
      exact absurd hcut (not_cut_nil _ _)
  | cons c line ih =>
      rw [inLine?]
      cases hhere : labelHere? (c :: line) with
      | some found =>
          have hcut := (labelHere?_eq_some_iff _ _).mp hhere
          simp only [Option.some.injEq]
          constructor
          · rintro rfl
            exact first_of_cut_nil hcut
          · rintro ⟨before, hfirst, hleast⟩
            obtain rfl := List.length_eq_zero_iff.mp (Nat.le_zero.mp (hleast [] found hcut))
            exact eq_of_cut_nil hhere hfirst
      | none =>
          -- No cut begins here, so the scanner may go on by one character.
          have hnone : ∀ label, ¬Cut (c :: line) [] label := fun label hcut => by
            rw [(labelHere?_eq_some_iff _ _).mpr hcut] at hhere
            cases hhere
          simp only
          rw [ih, first_cons_iff hnone]

/-- A line has no label exactly where it cannot be cut. -/
theorem inLine?_eq_none_iff (line : List Char) :
    inLine? line = none ↔ ∀ before label, ¬Cut line before label := by
  induction line with
  | nil => exact ⟨fun _ => not_cut_nil, fun _ => rfl⟩
  | cons c line ih =>
      rw [inLine?]
      cases hhere : labelHere? (c :: line) with
      | some found =>
          refine ⟨nofun, fun h => ?_⟩
          exact absurd ((labelHere?_eq_some_iff _ _).mp hhere) (h [] found)
      | none =>
          simp only
          rw [ih]
          constructor
          · rintro h (_ | ⟨b, before⟩) label hcut
            · rw [(labelHere?_eq_some_iff _ _).mpr hcut] at hhere
              cases hhere
            · exact h before label ((cut_cons_iff _ _ _ _ _).mp hcut).2
          · exact fun h before label hcut =>
              h (c :: before) label ((cut_cons_iff _ _ _ _ _).mpr ⟨rfl, hcut⟩)

/-! ## The text -/

/-- The label that a text declares is that of the first of its first two lines that can be cut, and
    of the cuts of that line the one with the shortest beginning. It declares none exactly where
    neither line can be cut. -/
theorem declared_iff_cut (text : List Char) :
    (∀ label, inText? text = some label ↔
      ∃ earlier line later, (Text.lines text).take 2 = earlier ++ line :: later ∧
        First line label ∧ ∀ l ∈ earlier, ∀ before label', ¬Cut l before label') ∧
      (inText? text = none ↔
        ∀ line ∈ (Text.lines text).take 2, ∀ before label, ¬Cut line before label) := by
  have hlines : inText? text = ((Text.lines text).take 2).findSome? inLine? :=
    Text.findSome?_leadingLines inLine? rfl declaringLines text
  rw [hlines]
  refine ⟨fun label => ?_, ?_⟩
  · simp only [List.findSome?_eq_some_iff, inLine?_eq_some_iff, inLine?_eq_none_iff]
  · simp only [List.findSome?_eq_none_iff, inLine?_eq_none_iff]

/-- The first place to look like a declaration has no label, and the second one is cut off at a
    character that no label has. -/
example : inText? "# coding= !\r\n# coding:: coding=\tlatin-1;".toList =
    some "latin-1".toList := by
  decide

end Declaration

end BufferFormat
