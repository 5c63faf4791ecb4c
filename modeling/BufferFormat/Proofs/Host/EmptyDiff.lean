import BufferFormat.Proofs.Encoding.Blank
import BufferFormat.Proofs.Formatter.Classification
import BufferFormat.Proofs.Host.Faults

/-!
# When there is no diff to show

A formatter that is asked for a diff prints nothing, or a line end, where it has
nothing to change. If its messages do not say so, the output has to decide, and a
panel is opened exactly if there is something but blanks in it.

The output is looked at twice, though. Whether there is a diff is asked of its
bytes, and what the panel shows is decoded and trimmed. The bytes are taken for
ASCII and the characters are not, so the two need not agree, and this module says
for every encoding when they do. Where each character of the output is blank if
and only if it looks so, the panel is opened as it should be. The characters of
ASCII but for the vertical tab are such characters in all encodings that extend
ASCII, and no diff is ever hidden there; at worst, a panel is opened that shows
an empty line. In UTF-16 both things go wrong, as no blank of ASCII looks blank
and some characters that are no blanks do.

## Main definitions

* `Encoding.Shows`: What a byte-wise test finds in the bytes of a text.

## Theorems

* `outputDiffers_iff_shows`: What decides about a diff, in terms of the text.
* `renderDiff_eq_lineFeed_iff`: When a panel would show an empty line.
* `verdict_of_unrecognized`: The verdict on output whose messages say nothing.
* `MemoryHost.settle_of_unrecognized`: What becomes of such output, and when it is right.
-/

namespace BufferFormat

/-- What a byte-wise test finds in the bytes of a text: a character that does not look blank, or an
    escape sequence. -/
def Encoding.Shows (e : Encoding) (bytes : List UInt8) (text : List Char) : Prop :=
  (∃ c ∈ text, e.looksBlank c = false) ∨ e.Escapes bytes

/-- Some bytes are not blank exactly if there is something to be found. -/
theorem Encoding.all_isBlankByte_eq_false_iff {e : Encoding} {bytes : List UInt8}
    {text : List Char} (h : e.decode? bytes = some text) :
    bytes.all Text.isBlankByte = false ↔ e.Shows bytes text := by
  rw [← Bool.not_eq_true, e.all_isBlankByte_iff h, not_and_or, not_not, Shows]
  simp only [not_forall, Bool.not_eq_true, exists_prop]

/-- Where characters look blank exactly if they are, and nothing else is in the bytes, the test
    finds something exactly if there is a character that is no blank. -/
theorem Encoding.shows_iff_of_agree {e : Encoding} {bytes : List UInt8} {text : List Char}
    (hagree : ∀ c ∈ text, e.looksBlank c = Text.isBlank c) (hescapes : ¬e.Escapes bytes) :
    e.Shows bytes text ↔ ∃ c ∈ text, Text.isBlank c = false := by
  rw [Shows, or_iff_left hescapes]
  constructor
  · rintro ⟨c, hc, hlooks⟩
    exact ⟨c, hc, (hagree c hc).symm.trans hlooks⟩
  · rintro ⟨c, hc, hblank⟩
    exact ⟨c, hc, (hagree c hc).trans hblank⟩

/-- Outside of UTF-16 a character that is no blank is always found, as a character that looks blank
    is a blank of ASCII. -/
theorem Encoding.shows_of_not_isBlank {e : Encoding} (he : ∀ order, e ≠ .utf16 order)
    (bytes : List UInt8) {text : List Char} (h : ∃ c ∈ text, Text.isBlank c = false) :
    e.Shows bytes text := by
  rcases h with ⟨c, hc, hblank⟩
  refine Or.inl ⟨c, hc, ?_⟩
  rw [looksBlank_eq he]
  cases hplain : Text.isPlainBlank c with
  | false => rfl
  | true =>
      rw [((Text.isPlainBlank_iff c).mp hplain).1] at hblank
      cases hblank

/-- In UTF-16 a character of ASCII is always found, be it a blank or not. -/
theorem Encoding.shows_utf16_of_lt (order : Utf16.ByteOrder) (bytes : List UInt8)
    {text : List Char} (h : ∃ c ∈ text, c.toNat < 0x80) : (utf16 order).Shows bytes text := by
  rcases h with ⟨c, hc, hascii⟩
  exact Or.inl ⟨c, hc, looksBlank_utf16_of_lt order hascii⟩

section Unrecognized

variable {outcome : Outcome} {ctx : Context} {e : Encoding} {text : String}

/-- Bytes that are decoded by a label are decoded in an encoding. -/
theorem exists_lookup_of_decodeBytes {bytes : List UInt8} {label : String}
    (h : decodeBytes bytes label = .ok text) : ∃ e, Encoding.lookup label = .ok e := by
  cases hl : Encoding.lookup label with
  | error fault => simp only [decodeBytes, hl, bind, Except.bind, reduceCtorEq] at h
  | ok e => exact ⟨e, rfl⟩

/-- A diff counts as one exactly if a byte-wise test finds something in it. -/
theorem outputDiffers_iff_shows (hmode : ctx.mode = .diff)
    (hl : Encoding.lookup ctx.encoding = .ok e)
    (htext : decodeBytes outcome.stdout ctx.encoding = .ok text) :
    outputDiffers outcome ctx = true ↔ e.Shows outcome.stdout text.toList := by
  have hdecoded := (decodeBytes_eq_ok_iff hl _ _).mp htext
  rw [← e.all_isBlankByte_eq_false_iff hdecoded, outputDiffers, hmode]
  exact Iff.of_eq (Bool.not_eq_true' _)

/-- A panel would show an empty line exactly if all characters of the diff are blank. -/
theorem renderDiff_eq_lineFeed_iff {bytes : List UInt8} {label : String}
    (htext : decodeBytes bytes label = .ok text) :
    renderDiff bytes label = .ok "\n" ↔ ∀ c ∈ text.toList, Text.isBlank c = true := by
  have hrender : renderDiff bytes label = .ok (Text.trim text ++ "\n") := by
    rw [renderDiff, htext]
    rfl
  rw [hrender, Except.ok.injEq, ← Text.trimChars_eq_nil_iff, ← Text.toList_trim,
    String.toList_eq_nil_iff]
  constructor
  · intro h
    have hlist := congrArg String.toList h
    rw [String.toList_append] at hlist
    exact String.toList_eq_nil_iff.mp (List.append_left_eq_self.mp hlist)
  · intro h
    rw [h]
    rfl

/-- The verdict on the diff of a successful run whose messages say nothing, for every host. -/
theorem verdict_of_unrecognized (hstatus : outcome.status = 0)
    (hunrecognized : classify outcome.stderr ctx.markers = .unrecognized)
    (hmode : ctx.mode = .diff) (hl : Encoding.lookup ctx.encoding = .ok e)
    (htext : decodeBytes outcome.stdout ctx.encoding = .ok text) (file : Option Path) :
    (e.Shows outcome.stdout text.toList →
      verdict outcome ctx file = .ok (.showDiff (diffLabel file) (Text.trim text ++ "\n"))) ∧
      (¬e.Shows outcome.stdout text.toList → verdict outcome ctx file = .ok .keep) := by
  have hok : outcome.success = true := beq_iff_eq.mpr hstatus
  have hchange : countsAsChange outcome ctx = true ↔ e.Shows outcome.stdout text.toList := by
    rw [countsAsChange, hunrecognized, ← outputDiffers_iff_shows hmode hl htext]
  refine ⟨fun hshows => ?_, fun hshows => ?_⟩
  · rw [verdict_of_change outcome ctx file hok (hchange.mpr hshows), hmode, renderDiff, htext]
    rfl
  · rw [verdict_eq_keep_iff hok, ← Bool.not_eq_true, hchange]
    exact hshows

end Unrecognized

/-- What becomes of the diff of a successful run whose messages say nothing. A panel is opened if a
    byte-wise test finds something in it, and nothing is said to have changed otherwise. This is
    right, in that a panel is opened exactly if there is a character that is no blank, wherever the
    characters that look blank are the blanks. Outside of UTF-16 no diff is hidden in any case, and
    in UTF-16 any character of ASCII opens a panel. -/
theorem MemoryHost.settle_of_unrecognized (h : MemoryHost) (outcome : Outcome) (ctx : Context)
    (text : String) (hstatus : outcome.status = 0)
    (hunrecognized : classify outcome.stderr ctx.markers = .unrecognized)
    (hmode : ctx.mode = .diff) (htext : decodeBytes outcome.stdout ctx.encoding = .ok text) :
    ∃ e, Encoding.lookup ctx.encoding = .ok e ∧
      let shows := e.Shows outcome.stdout text.toList
      let settled := h.settle (verdict outcome ctx h.file)
      (shows → settled =
        (h.openPanel (diffLabel h.file) (Text.trim text ++ "\n") diffSyntax, .ok .diffShown)) ∧
      (¬shows → settled = (h.notify alreadyFormatted, .ok .unchanged)) ∧
      (renderDiff outcome.stdout ctx.encoding = .ok "\n" ↔
        ∀ c ∈ text.toList, Text.isBlank c = true) ∧
      ((∀ c ∈ text.toList, e.looksBlank c = Text.isBlank c) → ¬e.Escapes outcome.stdout →
        (settled.2 = .ok .diffShown ↔ ∃ c ∈ text.toList, Text.isBlank c = false) ∧
          (settled.2 = .ok .unchanged ↔ ∀ c ∈ text.toList, Text.isBlank c = true)) ∧
      ((∀ order, e ≠ .utf16 order) → (∃ c ∈ text.toList, Text.isBlank c = false) →
        settled.2 = .ok .diffShown) ∧
      ((∃ order, e = .utf16 order) → (∃ c ∈ text.toList, c.toNat < 0x80) →
        settled.2 = .ok .diffShown) := by
  rcases exists_lookup_of_decodeBytes htext with ⟨e, hl⟩
  rcases verdict_of_unrecognized hstatus hunrecognized hmode hl htext h.file with
    ⟨hshown, hhidden⟩
  refine ⟨e, hl, ?_⟩
  intro shows settled
  have hpanel : shows → settled =
      (h.openPanel (diffLabel h.file) (Text.trim text ++ "\n") diffSyntax, .ok .diffShown) := by
    intro hshows
    simp only [settled, hshown hshows, settle, perform, Action.applied]
  have hnotice : ¬shows → settled = (h.notify alreadyFormatted, .ok .unchanged) := by
    intro hshows
    simp only [settled, hhidden hshows, settle, perform, Action.applied]
  refine ⟨hpanel, hnotice, renderDiff_eq_lineFeed_iff htext, fun hagree hescapes => ?_,
    fun he hblank => ?_, fun he hascii => ?_⟩
  · have hshows : shows ↔ ∃ c ∈ text.toList, Text.isBlank c = false :=
      e.shows_iff_of_agree hagree hescapes
    by_cases hfound : shows
    · rcases hshows.mp hfound with ⟨c, hc, hblank⟩
      rw [hpanel hfound]
      refine ⟨iff_of_true rfl ⟨c, hc, hblank⟩, iff_of_false (fun h => by cases h) fun hall => ?_⟩
      rw [hall c hc] at hblank
      cases hblank
    · have hall : ∀ c ∈ text.toList, Text.isBlank c = true := fun c hc =>
        Bool.not_eq_false _ ▸ fun hblank => hfound (hshows.mpr ⟨c, hc, hblank⟩)
      rw [hnotice hfound]
      exact ⟨iff_of_false (fun h => by cases h) (mt hshows.mpr hfound), iff_of_true rfl hall⟩
  · rw [hpanel (e.shows_of_not_isBlank he _ hblank)]
  · rcases he with ⟨order, rfl⟩
    rw [hpanel (Encoding.shows_utf16_of_lt order _ hascii)]

/-- A buffer in UTF-8 whose diff is a line end. -/
theorem MemoryHost.settle_of_unrecognized_lineEnd :
    classify (Utf8.encode "All done!".toList) {} = .unrecognized ∧
      decodeBytes [0x0D, 0x0A] "utf-8" = .ok "\r\n" ∧
      (MemoryHost.settle { buffer := ⟨"x = 1\n", none⟩ }
        (verdict ⟨0, [0x0D, 0x0A], Utf8.encode "All done!".toList⟩
          ⟨"utf-8", Utf8.encode "x = 1\n".toList, .diff, {}⟩ none)).2 = .ok .unchanged := by
  have hunrecognized : classify (Utf8.encode "All done!".toList) {} = .unrecognized := by rfl
  have htext : decodeBytes [0x0D, 0x0A] "utf-8" = .ok "\r\n" := by rfl
  have hlookup : Encoding.lookup "utf-8" = .ok .utf8 := by rfl
  rcases settle_of_unrecognized { buffer := ⟨"x = 1\n", none⟩ }
    ⟨0, [0x0D, 0x0A], Utf8.encode "All done!".toList⟩
    ⟨"utf-8", Utf8.encode "x = 1\n".toList, .diff, {}⟩ "\r\n" rfl hunrecognized rfl htext with
    ⟨e, hl, _, _, _, hright, _⟩
  rw [hlookup] at hl
  cases hl
  have hagree : ∀ c ∈ "\r\n".toList, Encoding.utf8.looksBlank c = Text.isBlank c := by
    intro c hc
    have hascii := List.all_eq_true.mp (show ("\r\n".toList.all fun c =>
      c.toNat < 0x80 && c.toNat != 0x0B) = true by decide) c hc
    rw [Bool.and_eq_true, decide_eq_true_eq, bne_iff_ne] at hascii
    exact Encoding.looksBlank_eq_isBlank (fun order h => by cases h) hascii.1 hascii.2
  have hblank : ∀ c ∈ "\r\n".toList, Text.isBlank c = true :=
    List.all_eq_true.mp (show "\r\n".toList.all Text.isBlank = true by decide)
  have hescapes : ¬Encoding.utf8.Escapes [0x0D, 0x0A] := fun hescapes => by cases hescapes.1
  exact ⟨hunrecognized, htext, (hright hagree hescapes).2.mpr hblank⟩

/-- In UTF-16 a line end is shown as a diff, and a character of two blank bytes is not. -/
theorem MemoryHost.settle_utf16 :
    classify (Utf8.encode "All done!".toList) {} = .unrecognized ∧
      decodeBytes [0x0A, 0x00] "utf-16le" = .ok "\n" ∧ Text.isBlank '\n' = true ∧
      (MemoryHost.settle { buffer := ⟨"x = 1\n", some "utf-16le"⟩ }
        (verdict ⟨0, [0x0A, 0x00], Utf8.encode "All done!".toList⟩
          ⟨"utf-16le", [0x78, 0x00, 0x0A, 0x00], .diff, {}⟩ none)).2 = .ok .diffShown ∧
      decodeBytes [0x20, 0x20] "utf-16le" = .ok "†" ∧ Text.isBlank '†' = false ∧
      (MemoryHost.settle { buffer := ⟨"x = 1\n", some "utf-16le"⟩ }
        (verdict ⟨0, [0x20, 0x20], Utf8.encode "All done!".toList⟩
          ⟨"utf-16le", [0x78, 0x00, 0x0A, 0x00], .diff, {}⟩ none)).2 = .ok .unchanged := by
  exact ⟨by rfl, by rfl, by rfl, by rfl, by rfl, by rfl, by rfl⟩

end BufferFormat
