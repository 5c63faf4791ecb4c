import BufferFormat.Encoding.Codec
import BufferFormat.Encoding.Declaration
import Mathlib.Data.List.DropRight

/-!
# Labels and what a host reports

Which differences between two labels do not matter, and which reports of a host
are taken up.

A label is trimmed twice on its way. Negotiation trims what a host reports, and
resolving trims whatever it is given, so a label that has been negotiated once
must not change its meaning when it is reported again. Trimming is idempotent,
which settles the blanks; the rest is that no label with a meaning is empty or
reads "undefined" in any case, as negotiation would pass over such a report and
look elsewhere.

That "undefined" has no meaning in any case is derived from the general fact
that resolving ignores case, and the closed fact that the lower-case word is
not registered.

## Theorems

* `Text.trimChars_trimChars`: Trimming twice is trimming once.
* `Label.toLower_eq_iff`: Lowering a letter never gives or hides another character.
* `Label.resolve?_map_toLower`: Resolving a label ignores its case.
* `Encoding.lookup_trim`: Looking up a label ignores its blank ends.
* `reportedLabel?_of_lookup`: A report with a meaning is taken up, trimmed.
* `negotiate_of_lookup`: It then decides the label, whatever the text and the default are.
-/

namespace BufferFormat

namespace Text

theorem trimChars_eq_rdropWhile (cs : List Char) :
    trimChars cs = (cs.dropWhile isBlank).rdropWhile isBlank := rfl

/-- Trimming leaves no blank at the start: what is cut off the end later does not change how the
    text begins. -/
theorem dropWhile_trimChars (cs : List Char) :
    (trimChars cs).dropWhile isBlank = trimChars cs := by
  rw [List.dropWhile_eq_self_iff]
  intro hlen
  have hlead : trimChars cs <+: cs.dropWhile isBlank := List.rdropWhile_prefix isBlank _
  have hhead := List.dropWhile_eq_self_iff.mp (List.dropWhile_idempotent isBlank cs)
    (Nat.lt_of_lt_of_le hlen hlead.length_le)
  rw [hlead.getElem hlen]
  exact hhead

theorem trimChars_trimChars (cs : List Char) : trimChars (trimChars cs) = trimChars cs := by
  rw [trimChars_eq_rdropWhile (trimChars cs), dropWhile_trimChars, trimChars_eq_rdropWhile,
    List.rdropWhile_idempotent]

theorem toList_trim (s : String) : (trim s).toList = trimChars s.toList := by
  rw [trim, String.toList_ofList]

theorem trim_trim (s : String) : trim (trim s) = trim s := by
  rw [trim, toList_trim, trimChars_trimChars, trim]

end Text

namespace Label

/-! ## Case -/

theorem toNat_toLower (c : Char) :
    c.toLower.toNat =
      if 0x41 ≤ c.toNat ∧ c.toNat ≤ 0x5A then c.toNat + 0x20 else c.toNat := by
  have hiff : (c.val ≥ 'A'.val ∧ c.val ≤ 'Z'.val) ↔ 0x41 ≤ c.toNat ∧ c.toNat ≤ 0x5A := by
    rw [ge_iff_le, UInt32.le_iff_toNat_le, UInt32.le_iff_toNat_le]
    exact Iff.rfl
  unfold Char.toLower
  by_cases h : 0x41 ≤ c.toNat ∧ c.toNat ≤ 0x5A
  · rw [dif_pos (hiff.mpr h), if_pos h, Char.toNat, UInt32.toNat_add]
    have hdiff : ('a'.val - 'A'.val).toNat = 0x20 := by decide
    have hval : c.val.toNat = c.toNat := rfl
    rw [hdiff, hval, Nat.mod_eq_of_lt (by omega)]
  · rw [dif_neg (mt hiff.mp h), if_neg h]

/-- A character that is no letter is the lower case of itself alone. -/
theorem toLower_eq_iff (c d : Char) (hd : d.isAlpha = false) : c.toLower = d ↔ c = d := by
  rcases Bool.or_eq_false_iff.mp hd with ⟨hupper, hlower⟩
  have hnotUpper : ¬(0x41 ≤ d.toNat ∧ d.toNat ≤ 0x5A) := of_decide_eq_false hupper
  have hnotLower : ¬(0x61 ≤ d.toNat ∧ d.toNat ≤ 0x7A) := by
    rintro ⟨h, h'⟩
    rcases Bool.and_eq_false_iff.mp hlower with ha | hz
    · exact of_decide_eq_false ha h
    · exact of_decide_eq_false hz h'
  rw [← Char.toNat_inj, ← Char.toNat_inj, toNat_toLower]
  split <;> omega

theorem toLower_toLower (c : Char) : c.toLower.toLower = c.toLower := by
  rw [← Char.toNat_inj, toNat_toLower c.toLower, toNat_toLower c]
  by_cases h : 0x41 ≤ c.toNat ∧ c.toNat ≤ 0x5A
  · rw [if_pos h, if_neg (by omega)]
  · rw [if_neg h, if_neg h]

theorem toLower_beq (c d : Char) (hd : d.isAlpha = false) : (c.toLower == d) = (c == d) := by
  rw [Bool.eq_iff_iff, beq_iff_eq, beq_iff_eq]
  exact toLower_eq_iff c d hd

theorem isLabelBlank_toLower (c : Char) : isLabelBlank c.toLower = isLabelBlank c := by
  rw [isLabelBlank, toLower_beq c ' ' rfl, toLower_beq c '\t' rfl, toLower_beq c '\n' rfl,
    toLower_beq c '\x0c' rfl, toLower_beq c '\r' rfl, isLabelBlank]

theorem dropWhile_map_toLower (cs : List Char) :
    (cs.map Char.toLower).dropWhile isLabelBlank =
      (cs.dropWhile isLabelBlank).map Char.toLower := by
  rw [List.dropWhile_map, show isLabelBlank ∘ Char.toLower = isLabelBlank from
    funext isLabelBlank_toLower]

theorem map_toLower_map_toLower (cs : List Char) :
    (cs.map Char.toLower).map Char.toLower = cs.map Char.toLower := by
  rw [List.map_map, show Char.toLower ∘ Char.toLower = Char.toLower from funext toLower_toLower]

theorem normalize_map_toLower (cs : List Char) :
    normalize (cs.map Char.toLower) = normalize cs := by
  rw [normalize, dropWhile_map_toLower, ← List.map_reverse, dropWhile_map_toLower,
    ← List.map_reverse, map_toLower_map_toLower, normalize]

theorem hyphenate_map_toLower (cs : List Char) :
    hyphenate (cs.map Char.toLower) = hyphenate cs := by
  rw [hyphenate, List.map_map, hyphenate]
  congr 1
  funext c
  rw [Function.comp_apply, toLower_beq c '_' rfl, toLower_toLower]

/-- Resolving a label ignores its case. -/
theorem resolve?_map_toLower (cs : List Char) :
    resolve? (cs.map Char.toLower) = resolve? cs := by
  have hregistered : ∀ ds, registered? (List.map Char.toLower ds) = registered? ds := by
    intro ds
    rw [registered?, normalize_map_toLower, registered?]
  rw [resolve?, hregistered, ofCodecName?, hyphenate_map_toLower, resolve?, ofCodecName?]

theorem resolve?_nil : resolve? [] = none := by rfl

theorem resolve?_undefined : resolve? undefinedLabel.toList = none := by rfl

end Label

/-! ## Reports -/

/-- Looking up a label ignores its blank ends. -/
theorem Encoding.lookup_trim (label : String) :
    Encoding.lookup (Text.trim label) = Encoding.lookup label := by
  rw [Encoding.lookup, Text.toList_trim, Text.trimChars_trimChars, Text.trim_trim,
    Encoding.lookup]

theorem resolve?_of_lookup (label : String) (e : Encoding) (hl : Encoding.lookup label = .ok e) :
    Label.resolve? (Text.trim label).toList = some e := by
  rw [Text.toList_trim]
  rw [Encoding.lookup] at hl
  rcases h : Label.resolve? (Text.trimChars label.toList) with _ | e'
  · rw [h] at hl
    cases hl
  · rw [h] at hl
    rw [Except.ok.inj hl]

/-- A report with a meaning is taken up, trimmed. An empty one has none, and neither has
    "undefined" in any case. -/
theorem reportedLabel?_of_lookup (label : String) (e : Encoding)
    (hl : Encoding.lookup label = .ok e) :
    reportedLabel? (some label) = some (Text.trim label) := by
  have hres := resolve?_of_lookup label e hl
  have hempty : (Text.trim label).isEmpty = false := by
    rw [Bool.eq_false_iff]
    intro h
    rw [String.isEmpty_iff.mp h, String.toList_empty, Label.resolve?_nil] at hres
    cases hres
  -- In lower case it would be the one word that negotiation passes over, and that has no meaning.
  have hundefined :
      ((Text.trim label).toList.map Char.toLower == undefinedLabel.toList) = false := by
    rw [beq_eq_false_iff_ne]
    intro h
    have hnone := Label.resolve?_map_toLower (Text.trim label).toList
    rw [h, hres, Label.resolve?_undefined] at hnone
    cases hnone
  simp only [reportedLabel?, Option.map_some, hempty, hundefined, Bool.or_self,
    Bool.false_eq_true, if_false]

/-- A report with a meaning decides the label, whatever the text and the default are. -/
theorem negotiate_of_lookup (label : String) (e : Encoding) (hl : Encoding.lookup label = .ok e)
    (text : List Char) (default : String) :
    negotiate (some label) text default = Text.trim label := by
  rw [negotiate, reportedLabel?_of_lookup label e hl]

end BufferFormat
