import BufferFormat.Host.File
import BufferFormat.Proofs.Encoding.Declaration
import BufferFormat.Proofs.Text.Lossy

/-!
# The label of a file is settled by its heading

Whoever writes below the second line of a file must not be able to choose the
encoding by which the file is read. The label is found in a lossy reading of the
whole file, so this is no matter of looking at two lines only: bytes further
down are read before anything is searched. It holds because a line feed breaks
off whatever stands before it. What is read up to there is read from the bytes
up to there, it has as many lines, and of these the first two are the same
whatever follows.

## Theorems

* `leadingLines_append`: What comes after enough line feeds adds nothing to the first lines.
* `negotiate_append`: Neither does it to the label that is negotiated.
* `FileHost.labelFor_append`: The label for a file is that of its heading.
* `FileHost.ofBytes_of_labelFor`: A host is made by the label.
* `FileHost.ofBytes_of_heading`: A file is decoded by the label of its heading, or not at all.
-/

namespace BufferFormat

namespace Text

/-- The line before the first line feed is the next one. -/
theorem nextLine_lineFeed {line : List Char} (h : '\n' ∉ line) (rest : List Char) :
    nextLine (line ++ '\n' :: rest) = (dropReturn line, rest) := by
  have hline : ∀ c ∈ line, (c != '\n') = true := fun c hc =>
    bne_iff_ne.mpr fun heq => h (heq ▸ hc)
  have hstop : ('\n' != '\n') = false := by decide
  rw [nextLine, List.span_eq_takeWhile_dropWhile, List.takeWhile_append_of_pos hline,
    List.dropWhile_append_of_pos hline, List.takeWhile_cons, List.dropWhile_cons, hstop]
  simp only [Bool.false_eq_true, if_false, List.append_nil]

theorem leadingLines_succ_of_ne_nil (n : Nat) {cs : List Char} (h : cs ≠ []) :
    leadingLines (n + 1) cs = (nextLine cs).1 :: leadingLines n (nextLine cs).2 := by
  rcases List.exists_cons_of_ne_nil h with ⟨c, rest, rfl⟩
  rfl

/-- The first lines are settled by as many line feeds, whatever comes after them. -/
theorem leadingLines_append {n : Nat} {cs : List Char} (h : n ≤ cs.count '\n')
    (after : List Char) : leadingLines n (cs ++ after) = leadingLines n cs := by
  induction n generalizing cs with
  | zero => rfl
  | succ n ih =>
      have hmem : '\n' ∈ cs := List.count_pos_iff.mp (by omega)
      rcases List.eq_append_cons_of_mem hmem with ⟨line, rest, rfl, hline⟩
      rw [List.count_append, List.count_eq_zero.mpr hline, List.count_cons_self] at h
      have hne : ∀ rest, line ++ '\n' :: rest ≠ [] := fun rest =>
        List.append_ne_nil_of_right_ne_nil _ nofun
      rw [List.append_assoc, List.cons_append, leadingLines_succ_of_ne_nil n (hne _),
        leadingLines_succ_of_ne_nil n (hne _), nextLine_lineFeed hline, nextLine_lineFeed hline,
        ih (by omega)]

end Text

/-- A label is negotiated from the lines that may declare it, and the rest of a text adds
    nothing. -/
theorem negotiate_append (declared : Option String) {text : List Char}
    (h : Declaration.declaringLines ≤ text.count '\n') (after : List Char) (default : String) :
    negotiate declared (text ++ after) default = negotiate declared text default := by
  have hdeclared : Declaration.inText? (text ++ after) = Declaration.inText? text := by
    rw [Declaration.inText?, Text.leadingLines_append h, Declaration.inText?]
  rw [negotiate, negotiate, hdeclared]

namespace FileHost

/-- A host for a file is made by its label, whatever led to that. -/
theorem ofBytes_of_labelFor {bytes : List UInt8} {declared : Option String} {default label : String}
    (h : labelFor bytes declared default = label) (path : Option Path) (output : Output) :
    ofBytes path bytes declared default output =
      match decodeBytes bytes label with
      | .ok text => .ok { path, text, encoding := label, output }
      | .error fault => .error (.during ("cannot decode " ++ nameOf path) fault) := by
  -- The label is put in before anything is evaluated, or looking it up would be.
  cases hdecoded : decodeBytes bytes label <;>
    (unfold ofBytes; dsimp only; rw [h, hdecoded])

section Heading

variable {heading : List UInt8} (hend : [0x0A] <:+ heading) (hlines : 2 ≤ heading.count 0x0A)
include hend hlines

/-- The label for a file is that of its heading. -/
theorem labelFor_append (rest : List UInt8) (declared : Option String) (default : String) :
    labelFor (heading ++ rest) declared default =
      negotiate declared (Utf8.lossy heading) default := by
  have hcount : Declaration.declaringLines ≤ (Utf8.lossy heading).count '\n' := by
    rw [Utf8.count_lossy]
    exact hlines
  rcases hend with ⟨before, rfl⟩
  -- The line feed at its end keeps the heading apart from what follows.
  have hlossy : Utf8.lossy (before ++ [0x0A] ++ rest) =
      Utf8.lossy (before ++ [0x0A]) ++ Utf8.lossy rest := by
    rw [List.append_assoc, List.singleton_append, Utf8.lossy_append_lineFeed,
      Utf8.lossy_append_lineFeed, List.append_assoc]
    rfl
  rw [labelFor, hlossy, negotiate_append declared hcount]

/-- Nothing behind the second line of a file has a say in its label. A file whose heading ends with
    its second line feed, or with a later one, is decoded by the label that is negotiated for the
    heading alone, and a host for it reports that label. -/
theorem ofBytes_of_heading (rest : List UInt8) (path : Option Path) (declared : Option String)
    (default : String) (output : Output) :
    let label := negotiate declared (Utf8.lossy heading) default
    labelFor (heading ++ rest) declared default = label ∧
      ofBytes path (heading ++ rest) declared default output =
        match decodeBytes (heading ++ rest) label with
        | .ok text => .ok { path, text, encoding := label, output }
        | .error fault => .error (.during ("cannot decode " ++ nameOf path) fault) := by
  intro label
  have hlabel : labelFor (heading ++ rest) declared default = label :=
    labelFor_append hend hlines rest declared default
  exact ⟨hlabel, ofBytes_of_labelFor hlabel path output⟩

end Heading

/-- A heading whose first line ends inside a character and whose second one declares a label. What
    follows would complete the character, and it declares another label. -/
theorem ofBytes_of_heading_cutOff :
    [0x0A] <:+ [0xE3, 0x81, 0x0A] ++ Utf8.encode "# coding: l1\n".toList ∧
      2 ≤ ([0xE3, 0x81, 0x0A] ++ Utf8.encode "# coding: l1\n".toList).count 0x0A ∧
      labelFor (([0xE3, 0x81, 0x0A] ++ Utf8.encode "# coding: l1\n".toList) ++
        0x82 :: Utf8.encode "# coding: utf-8\n".toList) none "utf-8" = "l1" := by
  have hend : [0x0A] <:+ [0xE3, 0x81, 0x0A] ++ Utf8.encode "# coding: l1\n".toList := by decide
  have hlines : 2 ≤ ([0xE3, 0x81, 0x0A] ++ Utf8.encode "# coding: l1\n".toList).count 0x0A := by
    decide
  have hlabel := (ofBytes_of_heading hend hlines (0x82 :: Utf8.encode "# coding: utf-8\n".toList)
    none none "utf-8" .inPlace).1
  exact ⟨hend, hlines, hlabel.trans (by rfl)⟩

end FileHost

end BufferFormat
