import BufferFormat.Proofs.Session
import BufferFormat.Proofs.Text.Lossy
import BufferFormat.Proofs.Text.Search

/-!
# How messages are told apart

A successful run is judged by two markers that are searched in its messages. Two
questions arise about the search, and both come down to blocks of lists.

The first is whether bytes that are no text can hide a marker or make one up, as
the messages are read lossily before they are searched. They cannot, for markers
without the replacement character: the verdict is that of a search for the bytes
of the markers.

The second is whether the markers themselves can be told apart. A configuration
is refused if both are the same, and that is not enough. The marker of an
unchanged buffer counts first, so where it is a block of the other one, messages
that have the other one have both. `Config.classify_markers` says that this is
the only thing that goes wrong, and what comes of it: the output of a run that
says it has formatted the buffer is dropped.

## Theorems

* `classifyText_cases`: How a text reads, by the blocks in it.
* `classify_eq_iff_bytes`: How messages read, by the bytes in them.
* `verdict_eq_keep_iff`: When the output of a successful run is dropped.
* `Config.classify_markers`: How the markers of a valid configuration read themselves.
-/

namespace BufferFormat

section Text

variable (text : List Char) (markers : Markers)

/-- The three ways to read a text, by the blocks in it. -/
theorem classifyText_cases :
    (classifyText text markers = .unchanged ∧ markers.unchanged.toList <:+: text) ∨
      (classifyText text markers = .reformatted ∧ ¬markers.unchanged.toList <:+: text ∧
        markers.reformatted.toList <:+: text) ∨
      (classifyText text markers = .unrecognized ∧ ¬markers.unchanged.toList <:+: text ∧
        ¬markers.reformatted.toList <:+: text) := by
  rw [← Text.occursIn_iff, ← Text.occursIn_iff, classifyText]
  by_cases hunchanged : Text.occursIn markers.unchanged.toList text = true
  · exact Or.inl ⟨if_pos hunchanged, hunchanged⟩
  rw [if_neg hunchanged]
  by_cases hreformatted : Text.occursIn markers.reformatted.toList text = true
  · exact Or.inr (Or.inl ⟨if_pos hreformatted, hunchanged, hreformatted⟩)
  · exact Or.inr (Or.inr ⟨if_neg hreformatted, hunchanged, hreformatted⟩)

theorem classifyText_eq_unchanged_iff :
    classifyText text markers = .unchanged ↔ markers.unchanged.toList <:+: text := by
  rcases classifyText_cases text markers with
    ⟨hread, hsays⟩ | ⟨hread, hsays, _⟩ | ⟨hread, hsays, _⟩
  · simp only [hread, hsays]
  · simp only [hread, hsays, reduceCtorEq]
  · simp only [hread, hsays, reduceCtorEq]

theorem classifyText_eq_reformatted_iff :
    classifyText text markers = .reformatted ↔
      ¬markers.unchanged.toList <:+: text ∧ markers.reformatted.toList <:+: text := by
  rcases classifyText_cases text markers with
    ⟨hread, hsays⟩ | ⟨hread, hsays, hsays'⟩ | ⟨hread, hsays, hsays'⟩
  · simp only [hread, hsays, reduceCtorEq, not_true_eq_false, false_and]
  · simp only [hread, hsays, hsays', not_false_eq_true, and_self]
  · simp only [hread, hsays', reduceCtorEq, and_false]

theorem classifyText_eq_unrecognized_iff :
    classifyText text markers = .unrecognized ↔
      ¬markers.unchanged.toList <:+: text ∧ ¬markers.reformatted.toList <:+: text := by
  rcases classifyText_cases text markers with
    ⟨hread, hsays⟩ | ⟨hread, hsays, hsays'⟩ | ⟨hread, hsays, hsays'⟩
  · simp only [hread, hsays, reduceCtorEq, not_true_eq_false, false_and]
  · simp only [hread, hsays', reduceCtorEq, not_true_eq_false, and_false]
  · simp only [hread, hsays, hsays', not_false_eq_true, and_self]

end Text

/-! ## Messages that are no text -/

/-- Messages are read as they would be by a search for the bytes of the markers, however broken the
    bytes around a marker are. -/
theorem classify_eq_iff_bytes (stderr : List UInt8) (markers : Markers)
    (hunchanged : Utf8.replacement ∉ markers.unchanged.toList)
    (hreformatted : Utf8.replacement ∉ markers.reformatted.toList) :
    let saysUnchanged := Utf8.encode markers.unchanged.toList <:+: stderr
    let saysReformatted := Utf8.encode markers.reformatted.toList <:+: stderr
    (classify stderr markers = .unchanged ↔ saysUnchanged) ∧
      (classify stderr markers = .reformatted ↔ ¬saysUnchanged ∧ saysReformatted) ∧
      (classify stderr markers = .unrecognized ↔ ¬saysUnchanged ∧ ¬saysReformatted) := by
  intro saysUnchanged saysReformatted
  have hsaysUnchanged := Utf8.infix_lossy_iff hunchanged stderr
  have hsaysReformatted := Utf8.infix_lossy_iff hreformatted stderr
  refine ⟨?_, ?_, ?_⟩
  · rw [classify, classifyText_eq_unchanged_iff, hsaysUnchanged]
  · rw [classify, classifyText_eq_reformatted_iff, hsaysUnchanged, hsaysReformatted]
  · rw [classify, classifyText_eq_unrecognized_iff, hsaysUnchanged, hsaysReformatted]

/-- A marker between a character that is cut off and a byte that continues none. -/
theorem classify_eq_iff_bytes_cutOff :
    Utf8.replacement ∉ "unchanged".toList ∧ Utf8.replacement ∉ "reformatted".toList ∧
      classify ([0xE2, 0x9C] ++ Utf8.encode "reformatted".toList ++ [0xA8, 0xFF]) {} =
        .reformatted := by
  have hunchanged : Utf8.replacement ∉ "unchanged".toList := by decide
  have hreformatted : Utf8.replacement ∉ "reformatted".toList := by decide
  have hclassified := (classify_eq_iff_bytes
    ([0xE2, 0x9C] ++ Utf8.encode "reformatted".toList ++ [0xA8, 0xFF]) {}
    hunchanged hreformatted).2.1
  exact ⟨hunchanged, hreformatted, hclassified.mpr ⟨by decide, List.infix_append _ _ _⟩⟩

/-! ## Markers of a configuration -/

/-- The output of a successful run is dropped if it counts as no change. -/
theorem verdict_eq_keep_iff {outcome : Outcome} (hok : outcome.success = true) (ctx : Context)
    (file : Option Path) :
    verdict outcome ctx file = .ok .keep ↔ countsAsChange outcome ctx = false := by
  rw [verdict_eq_ok_iff]
  constructor
  · intro hcalls
    cases hcalls with
    | keep _ hsame => exact hsame
  · exact fun hsame => .keep hok hsame

/-- A validated configuration has two markers that differ, and neither is empty. -/
theorem Config.markers_of_defect?_eq_none {config : Config} (h : config.defect? = none) :
    config.markers.reformatted.toList ≠ [] ∧ config.markers.unchanged.toList ≠ [] ∧
      config.markers.unchanged.toList ≠ config.markers.reformatted.toList := by
  unfold defect? at h
  split at h
  · cases h
  split at h
  · cases h
  split at h
  · cases h
  rename_i hempty
  split at h
  · cases h
  rename_i hequal
  rw [Bool.or_eq_true, not_or, String.isEmpty_iff, String.isEmpty_iff] at hempty
  refine ⟨mt String.toList_eq_nil_iff.mp hempty.1, mt String.toList_eq_nil_iff.mp hempty.2, ?_⟩
  exact fun heq => hequal (String.toList_inj.mp heq).symm

/-- How the markers of a valid configuration read themselves. Messages without a marker are told
    from both, and the marker of an unchanged buffer reads as it should. The other one does so
    exactly if the first is no block of it. If it is, it is a shorter one, no messages at all read
    as reformatted, and what a run prints is dropped where it says that it reformatted the
    buffer. -/
theorem Config.classify_markers (config : Config) (hvalid : config.defect? = none) :
    let unchanged := config.markers.unchanged.toList
    let reformatted := config.markers.reformatted.toList
    classify [] config.markers = .unrecognized ∧
      classify (Utf8.encode unchanged) config.markers = .unchanged ∧
      (classify (Utf8.encode reformatted) config.markers = .reformatted ↔
        ¬unchanged <:+: reformatted) ∧
      (unchanged <:+: reformatted → unchanged.length < reformatted.length ∧
        ∀ stderr, classify stderr config.markers ≠ .reformatted) ∧
      ∀ (outcome : Outcome) (ctx : Context) (file : Option Path), outcome.status = 0 →
        outcome.stderr = Utf8.encode reformatted → ctx.markers = config.markers →
        (verdict outcome ctx file = .ok .keep ↔ unchanged <:+: reformatted) := by
  intro unchanged reformatted
  rcases markers_of_defect?_eq_none hvalid with ⟨hreformatted, hunchanged, hdiffer⟩
  have hread : classify (Utf8.encode reformatted) config.markers = .reformatted ↔
      ¬unchanged <:+: reformatted := by
    rw [classify, Utf8.lossy_encode, classifyText_eq_reformatted_iff]
    exact and_iff_left (List.infix_refl _)
  have hhidden : classify (Utf8.encode reformatted) config.markers = .unchanged ↔
      unchanged <:+: reformatted := by
    rw [classify, Utf8.lossy_encode, classifyText_eq_unchanged_iff]
  refine ⟨?_, ?_, hread, fun hblock => ⟨?_, fun stderr => ?_⟩, ?_⟩
  · exact (classifyText_eq_unrecognized_iff [] config.markers).mpr
      ⟨mt List.infix_nil.mp hunchanged, mt List.infix_nil.mp hreformatted⟩
  · rw [classify, Utf8.lossy_encode, classifyText_eq_unchanged_iff]
  · exact lt_of_le_of_ne hblock.length_le fun hlength => hdiffer (hblock.eq_of_length hlength)
  · -- Messages with the longer marker have the shorter one.
    rw [classify, Ne, classifyText_eq_reformatted_iff]
    exact fun hmarked => hmarked.1 (hblock.trans hmarked.2)
  · intro outcome ctx file hstatus hstderr hmarkers
    rw [verdict_eq_keep_iff (beq_iff_eq.mpr hstatus), countsAsChange, hstderr, hmarkers]
    by_cases hblock : unchanged <:+: reformatted
    · rw [hhidden.mpr hblock]
      exact iff_of_true rfl hblock
    · rw [hread.mpr hblock]
      exact iff_of_false (fun hread => by cases hread) hblock

/-- The markers that are built in are told apart. -/
theorem Config.classify_markers_builtIn :
    ({} : Config).defect? = none ∧
      classify (Utf8.encode "unchanged".toList) {} = .unchanged ∧
      classify (Utf8.encode "reformatted".toList) {} = .reformatted := by
  have hvalid : ({} : Config).defect? = none := by rfl
  rcases classify_markers {} hvalid with ⟨_, hunchanged, hreformatted, _⟩
  exact ⟨hvalid, hunchanged, hreformatted.mpr (by decide)⟩

/-- A configuration with another marker for unchanged buffers, which is a block of the one that is
    built in for reformatted ones. -/
def overlappingConfig : Config := { markers := { unchanged := "formatted" } }

/-- It is valid, and what the formatter prints under it is dropped. -/
theorem Config.classify_overlapping :
    overlappingConfig.defect? = none ∧
      classify (Utf8.encode "reformatted".toList) overlappingConfig.markers = .unchanged ∧
      verdict ⟨0, Utf8.encode "x = 1\n".toList, Utf8.encode "reformatted".toList⟩
        ⟨"utf-8", Utf8.encode "x=1\n".toList, .format, overlappingConfig.markers⟩ none =
          .ok .keep := by
  exact ⟨by rfl, by rfl, by rfl⟩

end BufferFormat
