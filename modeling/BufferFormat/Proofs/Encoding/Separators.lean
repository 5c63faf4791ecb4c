import BufferFormat.Proofs.Encoding.Label
import Mathlib.Data.List.Forall2
import Mathlib.Data.List.Nodup

/-!
# Hyphens and underscores in labels

Codec names may be written in either case and with either separator. A label
that is not registered is read as such a name, with hyphens for its underscores,
so one would expect all spellings of a label to name the same encoding. They do
not: a label that is registered with an underscore alone is known in just this
spelling, as no other spelling turns back into it. The module says that these
labels are all that goes wrong.

The argument compares the two ways to resolve a label. Reading it as a codec
name depends on the spelling only through its hyphenated form, so it gives the
same for all spellings. Looking it up in the registry does not, but what it
finds is what reading it as a codec name finds, for every label but those. For
labels without an underscore that are no alias this holds because the hyphenated
form is the label itself, and the few others are looked up. So every spelling of
a label is read as a codec name in effect, unless it is one of those labels.

## Main definitions

* `Label.Respelled`: Labels that differ in case, separators and blank ends only.
* `Label.underscored`: The labels that are known with their underscores alone.
* `Label.rows`, `Label.aliasRows`: The registry and the aliases as characters.

## Theorems

* `Label.respelled_iff`: Labels are respelled exactly if they agree in lower case with hyphens.
* `Label.registered?_eq_rowOf?`, `Label.ofCodecName?_eq_hyphenated?`: Both ways to resolve a label
  by comparing characters.
* `Label.ofCodecName?_of_registered?`: What a registered label names as a codec name.
* `Label.resolve?_of_not_mem_underscored`: All other labels are read as codec names.
* `Encoding.lookup_of_respelled`: When two spellings of a label agree.
-/

namespace BufferFormat

namespace Label

/-! ## Spellings -/

/-- The same letter in either case, or two separators. -/
def SameLetter (c d : Char) : Prop :=
  c.toLower = d.toLower ∨ c ∈ ['-', '_'] ∧ d ∈ ['-', '_']

/-- Labels that differ in case, separators and blank ends only. -/
def Respelled (a b : String) : Prop :=
  List.Forall₂ SameLetter (Text.trimChars a.toList) (Text.trimChars b.toList)

/-- Lower case, with a hyphen for an underscore. -/
def hyphenateChar (c : Char) : Char :=
  if c == '_' then '-' else c.toLower

theorem hyphenate_eq_map (label : List Char) : hyphenate label = label.map hyphenateChar := rfl

theorem hyphenateChar_of_ne {c : Char} (h : c ≠ '_') : hyphenateChar c = c.toLower :=
  if_neg (beq_iff_eq.not.mpr h)

theorem hyphenateChar_eq_hyphen_iff (c : Char) : hyphenateChar c = '-' ↔ c ∈ ['-', '_'] := by
  rw [List.mem_cons, List.mem_singleton]
  by_cases hc : c = '_'
  · subst hc
    decide
  · rw [hyphenateChar_of_ne hc, or_iff_left hc]
    exact toLower_eq_iff c '-' rfl

theorem SameLetter.symm {c d : Char} (h : SameLetter c d) : SameLetter d c :=
  h.imp Eq.symm And.symm

theorem sameLetter_underscore_iff (d : Char) : SameLetter '_' d ↔ d ∈ ['-', '_'] := by
  constructor
  · rintro (hlower | ⟨_, hd⟩)
    · rw [(toLower_eq_iff d '_' rfl).mp hlower.symm]
      decide
    · exact hd
  · exact fun hd => .inr ⟨by decide, hd⟩

theorem sameLetter_iff (c d : Char) : SameLetter c d ↔ hyphenateChar c = hyphenateChar d := by
  have hunderscore : hyphenateChar '_' = '-' := rfl
  by_cases hc : c = '_'
  · rw [hc, hunderscore, eq_comm, hyphenateChar_eq_hyphen_iff, sameLetter_underscore_iff]
  · by_cases hd : d = '_'
    · rw [hd, hunderscore, hyphenateChar_eq_hyphen_iff, ← sameLetter_underscore_iff]
      exact ⟨.symm, .symm⟩
    · -- Two separators that are no underscores are the same letter anyway.
      rw [hyphenateChar_of_ne hc, hyphenateChar_of_ne hd, SameLetter, or_iff_left_iff_imp]
      simp only [List.mem_cons, List.not_mem_nil, hc, hd, or_false]
      rintro ⟨rfl, rfl⟩
      rfl

/-- Labels are respelled exactly if they agree in lower case with hyphens. -/
theorem respelled_iff (a b : String) :
    Respelled a b ↔
      hyphenate (Text.trimChars a.toList) = hyphenate (Text.trimChars b.toList) := by
  rw [Respelled, hyphenate_eq_map, hyphenate_eq_map, ← List.forall₂_eq_eq_eq,
    List.forall₂_map_left_iff, List.forall₂_map_right_iff]
  exact Iff.of_eq (congrArg (List.Forall₂ · _ _) (funext₂ fun c d => propext (sameLetter_iff c d)))

/-! ## Looking up characters -/

section Rows

variable (table : List (Encoding × List (List Char))) (others : List (List Char × List Char))

/-- The encoding of the first row that has a label. -/
def rowOf? (label : List Char) : Option Encoding :=
  (table.find? fun row => row.2.contains label).map (·.1)

/-- The encoding of a label with hyphens, by the rows of its alias if it is one. -/
def hyphenated? (label : List Char) : Option Encoding :=
  rowOf? table (normalize ((others.lookup label).getD label))

end Rows

/-- The registry as characters, which can be compared one by one. -/
def rows : List (Encoding × List (List Char)) :=
  registry.map fun entry => (entry.1, entry.2.map String.toList)

/-- The aliases as characters. -/
def aliasRows : List (List Char × List Char) :=
  aliases.map fun entry => (entry.1.toList, entry.2.toList)

theorem mem_map_toList (labels : List String) (cs : List Char) :
    cs ∈ labels.map String.toList ↔ String.ofList cs ∈ labels := by
  rw [List.mem_map]
  constructor
  · rintro ⟨label, hlabel, rfl⟩
    rwa [String.ofList_toList]
  · exact fun h => ⟨_, h, String.toList_ofList⟩

theorem registered?_eq_rowOf? (cs : List Char) : registered? cs = rowOf? rows (normalize cs) := by
  have hcontains : ∀ labels : List String,
      (labels.map String.toList).contains (normalize cs) =
        labels.contains (String.ofList (normalize cs)) := by
    intro labels
    rw [Bool.eq_iff_iff, List.contains_iff_mem, List.contains_iff_mem, mem_map_toList]
  rw [registered?, rowOf?, rows, List.find?_map, Option.map_map]
  simp only [Function.comp_def, hcontains]

theorem lookup_map_toList (entries : List (String × String)) (cs : List Char) :
    (entries.map fun entry => (entry.1.toList, entry.2.toList)).lookup cs =
      (entries.lookup (String.ofList cs)).map String.toList := by
  induction entries with
  | nil => rfl
  | cons entry entries ih =>
      have hkey : (cs == entry.1.toList) = (String.ofList cs == entry.1) := by
        rw [Bool.eq_iff_iff, beq_iff_eq, beq_iff_eq, ← String.toList_inj, String.toList_ofList]
      rw [List.map_cons, List.lookup_cons, List.lookup_cons, hkey, ih]
      cases String.ofList cs == entry.1 <;> rfl

theorem ofCodecName?_eq_hyphenated? (cs : List Char) :
    ofCodecName? cs = hyphenated? rows aliasRows (hyphenate cs) := by
  rw [ofCodecName?, hyphenated?, aliasRows, lookup_map_toList]
  cases aliases.lookup (String.ofList (hyphenate cs)) <;> exact registered?_eq_rowOf? _

/-- A literal as characters. Stated for a literal of any shape, so that rewriting finds it. -/
theorem toList_literal (cs : List Char) : (no_index (String.ofList cs)).toList = cs :=
  String.toList_ofList

/-! ## The registry -/

/-- The labels that are known with their underscores alone. -/
def underscored : List String :=
  ["iso_8859-1:1987", "iso_8859-2:1987", "iso_8859-3:1988", "iso_8859-4:1988", "iso_8859-5:1988",
    "iso_8859-6:1987", "iso_8859-7:1987", "iso_8859-8:1988", "iso_8859-9:1989", "ansi_x3.4-1968",
    "elot_928", "sun_eu_greek", "gb_2312", "gb_2312-80", "ms_kanji", "ks_c_5601-1987",
    "ks_c_5601-1989", "ksc_5601"]

/-- Labels that the hyphenated form may not lead back to: those with an underscore, and those that
    are an alias as well. -/
theorem hyphenated?_of_mem_rows : ∀ row ∈ rows, ∀ label ∈ row.2,
    '_' ∈ label ∨ (aliasRows.lookup label).isSome = true →
      label ∈ underscored.map String.toList ∨
        hyphenated? rows aliasRows (hyphenate label) = some row.1 := by
  simp only [rows, registry, aliasRows, aliases, underscored, List.map_cons, List.map_nil,
    toList_literal]
  decide +kernel

/-- Every one of the labels is registered, and lost once it is hyphenated. -/
theorem hyphenated?_of_mem_underscored : ∀ label ∈ underscored.map String.toList,
    (rowOf? rows label).isSome = true ∧ hyphenated? rows aliasRows (hyphenate label) = none := by
  simp only [rows, registry, aliasRows, aliases, underscored, List.map_cons, List.map_nil,
    toList_literal]
  decide +kernel

/-- No two of the labels are spellings of each other. -/
theorem nodup_hyphenate_underscored :
    ((underscored.map String.toList).map hyphenate).Nodup := by
  simp only [underscored, List.map_cons, List.map_nil, toList_literal]
  decide +kernel

/-! ## Labels without blank ends -/

theorem isBlank_of_isLabelBlank {c : Char} (h : isLabelBlank c = true) : Text.isBlank c = true := by
  simp only [isLabelBlank, Bool.or_eq_true, beq_iff_eq] at h
  rcases h with (((rfl | rfl) | rfl) | rfl) | rfl <;> rfl

theorem dropWhile_isLabelBlank {cs : List Char} (h : cs.dropWhile Text.isBlank = cs) :
    cs.dropWhile isLabelBlank = cs := by
  rw [List.dropWhile_eq_self_iff] at h ⊢
  exact fun hlength hblank => h hlength (isBlank_of_isLabelBlank hblank)

/-- A label without blank ends, in lower case. -/
def lowered (label : String) : List Char :=
  (Text.trimChars label.toList).map Char.toLower

theorem normalize_trimChars (label : String) :
    normalize (Text.trimChars label.toList) = lowered label := by
  have hend : (Text.trimChars label.toList).reverse.dropWhile Text.isBlank =
      (Text.trimChars label.toList).reverse := by
    rw [Text.trimChars, List.reverse_reverse, List.dropWhile_idempotent]
  rw [normalize, dropWhile_isLabelBlank (Text.dropWhile_trimChars _), dropWhile_isLabelBlank hend,
    List.reverse_reverse, lowered]

theorem hyphenate_lowered (label : String) :
    hyphenate (lowered label) = hyphenate (Text.trimChars label.toList) :=
  hyphenate_map_toLower _

/-- Without an underscore there is nothing to hyphenate. -/
theorem hyphenate_lowered_of_not_mem {label : String} (h : '_' ∉ lowered label) :
    hyphenate (lowered label) = lowered label := by
  have hlower : (lowered label).map Char.toLower = lowered label := map_toLower_map_toLower _
  conv_rhs => rw [← hlower]
  rw [hyphenate_eq_map]
  exact List.map_congr_left fun c hc => hyphenateChar_of_ne fun hunderscore => h (hunderscore ▸ hc)

/-- A registered label names the same as a codec name, if it is none of those that need their
    underscores. -/
theorem ofCodecName?_of_registered? {label : String} {e : Encoding}
    (hlabel : lowered label ∉ underscored.map String.toList)
    (h : registered? (Text.trimChars label.toList) = some e) :
    ofCodecName? (Text.trimChars label.toList) = some e := by
  rw [registered?_eq_rowOf?, normalize_trimChars] at h
  rw [ofCodecName?_eq_hyphenated?, ← hyphenate_lowered]
  by_cases hspecial : '_' ∈ lowered label ∨ (aliasRows.lookup (lowered label)).isSome = true
  · -- The row that has the label is one of those that were gone through.
    rcases Option.map_eq_some_iff.mp h with ⟨row, hfound, rfl⟩
    have hcontains := List.find?_some hfound
    have hmem : lowered label ∈ row.2 := List.contains_iff_mem.mp hcontains
    rcases hyphenated?_of_mem_rows row (List.mem_of_find?_eq_some hfound) _ hmem hspecial with
      hunderscored | hhyphenated
    · exact absurd hunderscored hlabel
    · exact hhyphenated
  · -- The label is its own hyphenated form, and it is looked up as it is.
    rw [not_or, Bool.not_eq_true, Option.isSome_eq_false_iff, Option.isNone_iff_eq_none] at hspecial
    rw [hyphenate_lowered_of_not_mem hspecial.1, hyphenated?, hspecial.2, Option.getD_none, lowered,
      normalize_map_toLower, normalize_trimChars, h]

/-- A label that does not need its underscores is read as a codec name. -/
theorem resolve?_of_not_mem_underscored {label : String}
    (h : lowered label ∉ underscored.map String.toList) :
    resolve? (Text.trimChars label.toList) = ofCodecName? (Text.trimChars label.toList) := by
  rw [resolve?]
  cases hregistered : registered? (Text.trimChars label.toList) with
  | none => rfl
  | some e => rw [ofCodecName?_of_registered? h hregistered, Option.or_self]

/-- A label that needs its underscores is found in the registry, and not as a codec name. -/
theorem resolve?_of_mem_underscored {label : String}
    (h : lowered label ∈ underscored.map String.toList) :
    resolve? (Text.trimChars label.toList) = rowOf? rows (lowered label) ∧
      (rowOf? rows (lowered label)).isSome = true ∧
      ofCodecName? (Text.trimChars label.toList) = none := by
  rcases hyphenated?_of_mem_underscored _ h with ⟨hsome, hnone⟩
  have hcodec : ofCodecName? (Text.trimChars label.toList) = none := by
    rw [ofCodecName?_eq_hyphenated?, ← hyphenate_lowered, hnone]
  refine ⟨?_, hsome, hcodec⟩
  rw [resolve?, hcodec, Option.or_none, registered?_eq_rowOf?, normalize_trimChars]

/-- A label that is known with its underscores alone. -/
def IsUnderscored (label : String) : Prop :=
  String.ofList (lowered label) ∈ underscored

instance (label : String) : Decidable (IsUnderscored label) :=
  inferInstanceAs (Decidable (_ ∈ _))

theorem isUnderscored_iff (label : String) :
    IsUnderscored label ↔ lowered label ∈ underscored.map String.toList :=
  (mem_map_toList underscored (lowered label)).symm

theorem Respelled.symm {a b : String} (h : Respelled a b) : Respelled b a :=
  (respelled_iff b a).mpr ((respelled_iff a b).mp h).symm

theorem ofCodecName?_of_respelled {a b : String} (h : Respelled a b) :
    ofCodecName? (Text.trimChars a.toList) = ofCodecName? (Text.trimChars b.toList) := by
  rw [ofCodecName?, ofCodecName?, (respelled_iff a b).mp h]

/-- Two spellings name the same if both need their underscores or neither does. -/
theorem resolve?_of_respelled {a b : String} (h : Respelled a b)
    (hboth : IsUnderscored a ↔ IsUnderscored b) :
    resolve? (Text.trimChars a.toList) = resolve? (Text.trimChars b.toList) := by
  simp only [isUnderscored_iff] at hboth
  by_cases ha : lowered a ∈ underscored.map String.toList
  · -- Both are spellings of one of the labels, so they agree in lower case.
    have hlowered : lowered a = lowered b := by
      refine List.inj_on_of_nodup_map nodup_hyphenate_underscored ha (hboth.mp ha) ?_
      rw [hyphenate_lowered, hyphenate_lowered, (respelled_iff a b).mp h]
    rw [(resolve?_of_mem_underscored ha).1, (resolve?_of_mem_underscored (hboth.mp ha)).1, hlowered]
  · rw [resolve?_of_not_mem_underscored ha, resolve?_of_not_mem_underscored (hboth.not.mp ha),
      ofCodecName?_of_respelled h]

/-- If only one of two spellings needs its underscores, the other names nothing. -/
theorem resolve?_of_respelled_of_isUnderscored {a b : String} (h : Respelled a b)
    (ha : IsUnderscored a) (hb : ¬IsUnderscored b) :
    (resolve? (Text.trimChars a.toList)).isSome = true ∧
      resolve? (Text.trimChars b.toList) = none := by
  rw [isUnderscored_iff] at ha hb
  rcases resolve?_of_mem_underscored ha with ⟨hnamed, hsome, hnone⟩
  refine ⟨by rw [hnamed, hsome], ?_⟩
  rw [resolve?_of_not_mem_underscored hb, ← ofCodecName?_of_respelled h, hnone]

end Label

namespace Encoding

theorem toOption_lookup (label : String) :
    (lookup label).toOption = Label.resolve? (Text.trimChars label.toList) := by
  rw [lookup]
  cases Label.resolve? (Text.trimChars label.toList) <;> rfl

/-- Two spellings of a label name the same encoding or both none, exactly if both or neither is a
    label that is known with its underscores alone. Never do they name different encodings. -/
theorem lookup_of_respelled (a b : String) (h : Label.Respelled a b) :
    ((lookup a).toOption = (lookup b).toOption ↔
        (Label.IsUnderscored a ↔ Label.IsUnderscored b)) ∧
      ∀ e e', lookup a = .ok e → lookup b = .ok e' → e = e' := by
  have hnamed : ∀ label e, lookup label = .ok e →
      Label.resolve? (Text.trimChars label.toList) = some e := by
    intro label e he
    rw [← toOption_lookup, he, Except.toOption]
  rw [toOption_lookup, toOption_lookup]
  by_cases hboth : Label.IsUnderscored a ↔ Label.IsUnderscored b
  · have hsame := Label.resolve?_of_respelled h hboth
    refine ⟨iff_of_true hsame hboth, fun e e' he he' => ?_⟩
    exact Option.some.inj ((hnamed a e he).symm.trans (hsame.trans (hnamed b e' he')))
  · -- One of the two names an encoding, and the other none.
    have hdiffer : (Label.resolve? (Text.trimChars a.toList)).isSome ≠
        (Label.resolve? (Text.trimChars b.toList)).isSome := by
      by_cases ha : Label.IsUnderscored a
      · have hb : ¬Label.IsUnderscored b := fun hb => hboth (iff_of_true ha hb)
        rcases Label.resolve?_of_respelled_of_isUnderscored h ha hb with ⟨hsome, hnone⟩
        rw [hsome, hnone]
        decide
      · have hb : Label.IsUnderscored b := by
          by_contra hb
          exact hboth (iff_of_false ha hb)
        rcases Label.resolve?_of_respelled_of_isUnderscored h.symm hb ha with ⟨hsome, hnone⟩
        rw [hsome, hnone]
        decide
    refine ⟨iff_of_false (fun hsame => hdiffer (congrArg _ hsame)) hboth, fun e e' he he' => ?_⟩
    rw [hnamed a e he, hnamed b e' he'] at hdiffer
    exact absurd rfl hdiffer

/-- A label in another case, with another separator and with blanks around it. -/
theorem lookup_of_respelled_windows :
    Label.Respelled "\u00A0Windows_1252\n" "windows-1252" ∧
      (lookup "\u00A0Windows_1252\n").toOption = (lookup "windows-1252").toOption := by
  have hrespelled : Label.Respelled "\u00A0Windows_1252\n" "windows-1252" := by
    rw [Label.respelled_iff]
    decide +kernel
  have hneither : ¬Label.IsUnderscored "\u00A0Windows_1252\n" ∧
      ¬Label.IsUnderscored "windows-1252" := by decide +kernel
  exact ⟨hrespelled, (lookup_of_respelled _ _ hrespelled).1.mpr
    (iff_of_false hneither.1 hneither.2)⟩

/-- Two spellings of a label, of which only one has a meaning. -/
theorem lookup_respelled_korean :
    Label.Respelled "ks_c_5601-1987" "ks_c_5601_1987" ∧
      lookup "ks_c_5601-1987" = .ok .eucKr ∧
      lookup "ks_c_5601_1987" = .error (.unknownEncoding "ks_c_5601_1987") := by
  refine ⟨?_, by rfl, by rfl⟩
  rw [Label.respelled_iff]
  decide +kernel

end Encoding

end BufferFormat
