import BufferFormat.Proofs.Text.Decimal
import BufferFormat.Toml.Document

/-!
# Reading a written entry

A document with one entry, a name and a value on a line, is read as the table
with that entry. What the value is makes no difference as long as reading stops
where the value ends, so names and lines are passed once and for all, and only
the value has to be looked at.

An integer is looked at by every reader of values before it comes to the one for
integers. All of them stop at its end, because a written integer is digits behind
a minus at most, and what follows it can be no part of a number or of a date. A
date would need a dash behind digits, a time a colon, a float a point or a
letter. So the only question left is whether the integer fits in 64 bits: if it
does not, there is no value at all, and the document is malformed.

## Main definitions

* `Toml.EndsNumber`: What can follow a number.
* `Toml.opensNumber`: The characters that a written integer begins with.
* `Toml.IsBareName`: A name that needs no quotes.

## Theorems

* `Toml.digitsFrom_append`: Reading digits stops where they end.
* `Toml.decimal?_toString`: A written integer is read as its sign and its digits.
* `Toml.integer?_toString`: A written integer is read back if it fits.
* `Toml.float?_toString`, `Toml.datetime?_toString`: It is neither a float nor a date.
* `Toml.value?_toString`: It is read as an integer and as nothing else.
* `Toml.field?_of_isBareName`: How an entry is read.
* `Toml.endLine?_of_isBareName`: A line does not end in front of a name.
* `Toml.parse?_entry`, `Toml.parse?_entry_eq_none`: How a document of one entry is read.
* `Toml.parse?_integer`: How a document with an integer is read.
-/

namespace BufferFormat

namespace Toml

theorem ne_of_isBare {c d : Char} (hc : isBare c = false) (hd : isBare d = true) : c ≠ d := by
  rintro rfl
  rw [hc] at hd
  cases hd

theorem isDigit_eq (c : Char) : isDigit c = c.isDigit := by
  rw [isDigit, Char.isDigit]
  rfl

theorem isDigit_of_isBare_eq_false {c : Char} (h : isBare c = false) : c.isDigit = false := by
  by_cases hdigit : c.isDigit = true
  · simp only [isBare, isDigit_eq, hdigit, Bool.true_or, reduceCtorEq] at h
  · exact Bool.eq_false_iff.mpr hdigit

/-- Nothing is skipped where no blank comes first. -/
theorem skipBlanks_eq_self {cs : List Char} (h : ∀ c ds, cs = c :: ds → c ≠ ' ' ∧ c ≠ '\t') :
    skipBlanks cs = cs := by
  match cs with
  | [] => rfl
  | c :: ds =>
      refine List.dropWhile_cons_of_neg ?_
      rw [isBlank, Bool.or_eq_true, beq_iff_eq, beq_iff_eq, not_or]
      exact h c ds rfl

/-! ## Digits -/

/-- The value of a digit. -/
def digitOf (c : Char) : Nat :=
  c.toNat - '0'.toNat

theorem digitValue?_of_isDigit {c : Char} (h : c.isDigit = true) :
    digitValue? 10 c = some (digitOf c) := by
  have hlt : digitOf c < 10 := by
    rw [Char.isDigit_iff_toNat] at h
    simp only [digitOf, Char.reduceToNat] at h ⊢
    omega
  rw [digitValue?, hexValue?, isDigit_eq, if_pos h, Option.filter_some]
  exact if_pos (decide_eq_true hlt)

/-- The letters that are hexadecimal digits are no decimal ones. -/
theorem digitValue?_eq_none {c : Char} (h : c.isDigit = false) : digitValue? 10 c = none := by
  -- A letter stands for ten at least.
  have hletter : ∀ n : Nat, (some (n + 10)).filter (fun d => decide (d < 10)) = none := by
    intro n
    rw [Option.filter_some, if_neg]
    exact fun hlt => absurd (of_decide_eq_true hlt) (by omega)
  rw [digitValue?, hexValue?, isDigit_eq, if_neg (Bool.eq_false_iff.mp h)]
  split
  · exact hletter _
  · split
    · exact hletter _
    · exact Option.filter_none _

theorem digitsFrom_cons {c : Char} (h : c.isDigit = true) (read : List Nat) (cs : List Char) :
    digitsFrom 10 read (c :: cs) = digitsFrom 10 (digitOf c :: read) cs := by
  -- Reading looks at two characters for the sake of underscores, and stops at the last one.
  match cs with
  | [] => simp only [digitsFrom, digitValue?_of_isDigit h]
  | c' :: rest => simp only [digitsFrom, digitValue?_of_isDigit h]

/-- The values of digits write the number that the digits are. -/
theorem ofDigits_map_digitOf (ds : List Char) :
    ofDigits 10 (ds.map digitOf) = Nat.ofDigitChars 10 ds 0 := by
  rw [ofDigits, Nat.ofDigitChars_eq_foldl, List.foldl_map]
  congr 1
  funext n c
  rw [Nat.mul_comm]
  rfl

/-! ## What follows a number -/

/-- What can follow a number: nothing that could be part of one, or of a date. -/
def EndsNumber (rest : List Char) : Prop :=
  ∀ c, rest.head? = some c → isBare c = false ∧ c ≠ '.' ∧ c ≠ ':'

section Rest

variable {rest : List Char} (hrest : EndsNumber rest)

include hrest

/-- Reading digits stops where they end. -/
theorem digitsFrom_append {ds : List Char} (hds : ∀ c ∈ ds, c.isDigit = true) (read : List Nat) :
    digitsFrom 10 read (ds ++ rest) = (read.reverse ++ ds.map digitOf, rest) := by
  induction ds generalizing read with
  | nil =>
      rw [List.nil_append, List.map_nil, List.append_nil]
      match rest with
      | [] => rfl
      | c :: cs =>
          have hbare := (hrest c rfl).1
          -- What follows is no digit, and no underscore that a digit could follow either.
          have hdigit := isDigit_of_isBare_eq_false hbare
          have hscore : ¬(c == '_') = true := by
            rw [beq_iff_eq]
            exact ne_of_isBare hbare (by decide)
          match cs with
          | [] => simp only [digitsFrom, digitValue?_eq_none hdigit]
          | c' :: cs =>
              simp only [digitsFrom, digitValue?_eq_none hdigit, if_neg hscore]
              split <;> rfl
  | cons c ds ih =>
      rw [List.forall_mem_cons] at hds
      rw [List.cons_append, digitsFrom_cons hds.1, ih hds.2, List.reverse_cons, List.map_cons,
        List.append_assoc]
      rfl

/-- Digits in a fixed number are taken from the front, and those that are left stay in front of
    what follows them. -/
theorem fixed?_append {ds : List Char} (hds : ∀ c ∈ ds, c.isDigit = true) {n value k : Nat}
    {left : List Char} (h : fixed? n value (ds ++ rest) = some (k, left)) :
    ∃ ds', (∀ c ∈ ds', c.isDigit = true) ∧ left = ds' ++ rest := by
  induction n generalizing value ds with
  | zero =>
      cases h
      exact ⟨ds, hds, rfl⟩
  | succ n ih =>
      match ds with
      | [] =>
          match rest with
          | [] => cases h
          | c :: cs =>
              have hdigit := isDigit_of_isBare_eq_false (hrest c rfl).1
              rw [List.nil_append, fixed?, isDigit_eq, if_neg (Bool.eq_false_iff.mp hdigit)] at h
              cases h
      | c :: ds =>
          rw [List.forall_mem_cons] at hds
          rw [List.cons_append, fixed?, isDigit_eq, if_pos hds.1] at h
          exact ih hds.2 h

/-- A fraction would begin with a point. -/
theorem fraction?_of_endsNumber : fraction? rest = none := by
  match rest with
  | [] => rfl
  | c :: cs =>
      unfold fraction?
      split
      · rename_i heq
        exact absurd (List.head_eq_of_cons_eq heq) (hrest c rfl).2.1
      · rfl

/-- An exponent would begin with a letter. -/
theorem exponent?_of_endsNumber : exponent? rest = none := by
  match rest with
  | [] => rfl
  | c :: cs =>
      have hbare := (hrest c rfl).1
      have he : ¬(c == 'e' || c == 'E') = true := by
        rw [Bool.or_eq_true, beq_iff_eq, beq_iff_eq, not_or]
        exact ⟨ne_of_isBare hbare (by decide), ne_of_isBare hbare (by decide)⟩
      rw [exponent?, if_neg he]

/-- The digits of a number are read as such, behind whatever sign. -/
theorem decimal?_of_sign {cs : List Char} {negative : Bool} {n : Nat}
    (hsign : sign cs = (negative, Nat.toDigits 10 n ++ rest)) :
    ∃ digits, decimal? cs = some ((negative, digits), rest) ∧ ofDigits 10 digits = n := by
  rcases Text.exists_toDigits n with ⟨c, ds, hdigits, hall, hzero⟩
  by_cases hc : c = '0'
  · -- Only zero begins with a zero, and then that is all there is.
    rw [hzero hc, Nat.toDigits_zero] at hsign
    refine ⟨[0], ?_, (hzero hc).symm⟩
    rw [decimal?, hsign]
    rfl
  · refine ⟨(c :: ds).map digitOf, ?_, ?_⟩
    · rw [decimal?, hsign, hdigits]
      simp only [List.cons_append]
      split
      · rename_i heq
        exact absurd (List.head_eq_of_cons_eq heq) hc
      · rw [List.forall_mem_cons] at hall
        rw [digits?, digitValue?_of_isDigit hall.1, Option.map_some,
          digitsFrom_append hrest hall.2]
        rfl
    · rw [ofDigits_map_digitOf, ← hdigits, Nat.ofDigitChars_ten_toDigits]

end Rest

/-! ## Written integers -/

/-- The characters that a written integer begins with. -/
def opensNumber (c : Char) : Bool :=
  c == '-' || c.isDigit

theorem opensNumber_of_toString {i : Int} {rest cs : List Char} {c : Char}
    (h : (toString i).toList ++ rest = c :: cs) : opensNumber c = true := by
  by_cases hi : 0 ≤ i
  · rcases Text.exists_toDigits i.toNat with ⟨d, ds, hdigits, hall, _⟩
    rw [Text.toList_toString_of_nonneg hi, hdigits] at h
    rw [← List.head_eq_of_cons_eq h, opensNumber, hall d List.mem_cons_self, Bool.or_true]
  · rw [Text.toList_toString_of_neg (by omega)] at h
    rw [← List.head_eq_of_cons_eq h]
    rfl

/-- A written integer begins with no blank. -/
theorem skipBlanks_toString (i : Int) (rest : List Char) :
    skipBlanks ((toString i).toList ++ rest) = (toString i).toList ++ rest := by
  refine skipBlanks_eq_self fun c cs hchars => ?_
  have hopens := opensNumber_of_toString hchars
  constructor <;> rintro rfl <;> cases hopens

/-- No sign stands in front of digits. -/
theorem sign_of_isDigit {c : Char} (h : c.isDigit = true) (cs : List Char) :
    sign (c :: cs) = (false, c :: cs) := by
  unfold sign
  split
  · rename_i heq
    rw [List.head_eq_of_cons_eq heq] at h
    cases h
  · rename_i heq
    rw [List.head_eq_of_cons_eq heq] at h
    cases h
  · rfl

/-- The sign and the digits of a written integer. -/
theorem sign_toString (i : Int) (rest : List Char) :
    sign ((toString i).toList ++ rest) = (decide (i < 0), Nat.toDigits 10 i.natAbs ++ rest) := by
  by_cases hi : 0 ≤ i
  · have habs : i.natAbs = i.toNat := by omega
    have hneg : decide (i < 0) = false := decide_eq_false (by omega)
    rcases Text.exists_toDigits i.toNat with ⟨c, cs, hdigits, hall, _⟩
    rw [Text.toList_toString_of_nonneg hi, habs, hneg, hdigits]
    exact sign_of_isDigit (hall c List.mem_cons_self) (cs ++ rest)
  · have habs : i.natAbs = (-i).toNat := by omega
    have hneg : decide (i < 0) = true := decide_eq_true (by omega)
    rw [Text.toList_toString_of_neg (by omega), habs, hneg]
    rfl

/-- A zero in front is the whole integer, so only what follows it can stand behind it. -/
theorem rest_of_leading_zero {i : Int} {rest cs : List Char}
    (h : (toString i).toList ++ rest = '0' :: cs) : rest = cs := by
  by_cases hi : 0 ≤ i
  · rcases Text.exists_toDigits i.toNat with ⟨c, ds, hdigits, _, hzero⟩
    rw [Text.toList_toString_of_nonneg hi] at h
    have hc : c = '0' := by
      rw [hdigits] at h
      exact List.head_eq_of_cons_eq h
    rw [hzero hc, Nat.toDigits_zero] at h
    exact List.tail_eq_of_cons_eq h
  · rw [Text.toList_toString_of_neg (by omega)] at h
    exact absurd (List.head_eq_of_cons_eq h) (by decide)

section Integer

variable (i : Int) {rest : List Char} (hrest : EndsNumber rest)

include hrest

/-- A written integer is read as its sign and its digits. -/
theorem decimal?_toString :
    ∃ digits, decimal? ((toString i).toList ++ rest) = some ((decide (i < 0), digits), rest) ∧
      ofDigits 10 digits = i.natAbs :=
  decimal?_of_sign hrest (sign_toString i rest)

theorem unbounded?_toString : unbounded? ((toString i).toList ++ rest) = some (i, rest) := by
  -- No mark of a base stands behind a zero, as the mark would be a letter.
  have hmark : ∀ d cs, (toString i).toList ++ rest = '0' :: d :: cs → isBare d = false :=
    fun d cs h => (hrest d (rest_of_leading_zero h ▸ rfl)).1
  unfold unbounded?
  split
  · rename_i heq
    exact absurd (hmark _ _ heq) (by decide)
  · rename_i heq
    exact absurd (hmark _ _ heq) (by decide)
  · rename_i heq
    exact absurd (hmark _ _ heq) (by decide)
  · rcases decimal?_toString i hrest with ⟨digits, hread, hvalue⟩
    rw [hread, Option.map_some]
    simp only [hvalue, decide_eq_true_eq, Option.some.injEq, Prod.mk.injEq, and_true]
    split
    · rw [Int.ofNat_eq_natCast]
      omega
    · omega

/-- A written integer is read back if it fits. -/
theorem integer?_toString :
    integer? ((toString i).toList ++ rest) = if fits i then some (i, rest) else none := by
  rw [integer?, unbounded?_toString i hrest, Option.filter_some]

/-- A written integer is no float: neither a point nor an exponent follows it. -/
theorem float?_toString : float? ((toString i).toList ++ rest) = none := by
  have hfinite : finite? ((toString i).toList ++ rest) = none := by
    rcases decimal?_toString i hrest with ⟨digits, hread, _⟩
    simp only [finite?, hread, fraction?_of_endsNumber hrest, exponent?_of_endsNumber hrest,
      Option.map_none, Option.bind_eq_bind, Option.bind_some, Option.bind_none]
  -- The words that are floats do not begin with a digit.
  have hspecial : special? ((toString i).toList ++ rest) = none := by
    rcases Text.exists_toDigits i.natAbs with ⟨c, cs, hdigits, hall, _⟩
    have hc := hall c List.mem_cons_self
    rw [special?, sign_toString, hdigits, List.cons_append]
    split
    · rename_i heq
      rw [List.head_eq_of_cons_eq heq] at hc
      cases hc
    · rename_i heq
      rw [List.head_eq_of_cons_eq heq] at hc
      cases hc
    · rfl
  rw [float?, hfinite, hspecial]
  rfl

/-! ### Dates -/

/-- No dash and no colon stands behind digits of a written integer. -/
theorem char?_of_fixed? {n value k : Nat} {left : List Char} {mark : Char}
    (hmark : mark = '-' ∨ mark = ':')
    (h : fixed? (n + 1) value ((toString i).toList ++ rest) = some (k, left)) :
    char? mark left = none := by
  by_cases hi : 0 ≤ i
  · rw [Text.toList_toString_of_nonneg hi] at h
    rcases fixed?_append hrest (fun c hc => Text.isDigit_of_mem_toDigits hc) h with ⟨ds, hds, rfl⟩
    have hne : ∀ c, (ds ++ rest).head? = some c → c ≠ mark := by
      intro c hc
      match ds with
      | [] =>
          rcases hmark with rfl | rfl
          · exact ne_of_isBare (hrest c hc).1 (by decide)
          · exact (hrest c hc).2.2
      | d :: _ =>
          cases hc
          have hdigit := hds c List.mem_cons_self
          rintro rfl
          rcases hmark with rfl | rfl <;> cases hdigit
    match hleft : ds ++ rest with
    | [] => rfl
    | c :: _ => exact if_neg fun heq => hne c (hleft ▸ rfl) (beq_iff_eq.mp heq)
  · rw [Text.toList_toString_of_neg (by omega)] at h
    cases h

/-- A written integer is neither a date nor a time. -/
theorem datetime?_toString : datetime? ((toString i).toList ++ rest) = none := by
  have hdate : date? ((toString i).toList ++ rest) = none := by
    unfold date?
    cases hyear : fixed? 4 0 ((toString i).toList ++ rest) with
    | none => rfl
    | some year =>
        simp only [bind, Option.bind, char?_of_fixed? i hrest (Or.inl rfl) hyear]
  have htime : time? ((toString i).toList ++ rest) = none := by
    unfold time?
    cases hhour : between? 0 23 ((toString i).toList ++ rest) with
    | none => rfl
    | some hour =>
        have hread := (Option.filter_eq_some_iff.mp hhour).1
        simp only [bind, Option.bind, char?_of_fixed? i hrest (Or.inr rfl) hread]
  rw [datetime?, hdate, htime]
  rfl

/-! ### Values -/

/-- A written integer is read as an integer and as nothing else. -/
theorem scalar?_toString :
    scalar? ((toString i).toList ++ rest) =
      if fits i then some (.integer i, rest) else none := by
  -- Quotes, words, arrays and tables begin with characters that no integer begins with.
  have hquoted : quoted? ((toString i).toList ++ rest) = none := by
    unfold quoted?
    split
    all_goals first
      | rename_i heq
        cases opensNumber_of_toString heq
      | rfl
  unfold scalar?
  split
  · rename_i heq
    cases opensNumber_of_toString heq
  · rename_i heq
    cases opensNumber_of_toString heq
  · rw [hquoted, datetime?_toString i hrest, float?_toString i hrest, integer?_toString i hrest]
    split <;> rfl

theorem value?_toString (n : Nat) :
    value? n ((toString i).toList ++ rest) =
      if fits i then some (.integer i, rest) else none := by
  unfold value?
  split
  · rename_i heq
    cases opensNumber_of_toString heq
  · rename_i heq
    cases opensNumber_of_toString heq
  · exact scalar?_toString i hrest

end Integer

/-! ## Documents of one entry -/

/-- A name that needs no quotes. -/
structure IsBareName (name : String) : Prop where
  ne_empty : name ≠ ""
  bare : ∀ c ∈ name.toList, isBare c = true

theorem toList_entry (name written : String) :
    (name ++ " = " ++ written).toList = name.toList ++ ' ' :: '=' :: ' ' :: written.toList := by
  simp only [String.toList_append, List.append_assoc]
  rfl

section Entry

variable {name : String} (hname : IsBareName name)

include hname

theorem IsBareName.isBare_of_append {cs ds : List Char} {c : Char}
    (h : name.toList ++ cs = c :: ds) : isBare c = true := by
  match hchars : name.toList with
  | [] => exact absurd (String.toList_eq_nil_iff.mp hchars) hname.ne_empty
  | d :: _ =>
      rw [hchars] at h
      rw [← List.head_eq_of_cons_eq h]
      exact hname.bare d (hchars ▸ List.mem_cons_self)

theorem IsBareName.append_ne_nil (cs : List Char) : name.toList ++ cs ≠ [] := by
  rw [Ne, List.append_eq_nil_iff, String.toList_eq_nil_iff]
  exact fun hempty => hname.ne_empty hempty.1

/-- A name begins with no blank. -/
theorem skipBlanks_of_isBareName (cs : List Char) :
    skipBlanks (name.toList ++ cs) = name.toList ++ cs := by
  refine skipBlanks_eq_self fun c ds hchars => ?_
  have hbare := hname.isBare_of_append hchars
  constructor <;> rintro rfl <;> cases hbare

/-- A name is neither the end of a line nor a comment. -/
theorem endLine?_of_isBareName (cs : List Char) : endLine? (name.toList ++ cs) = none := by
  have hcomment : skipComment (name.toList ++ cs) = name.toList ++ cs := by
    unfold skipComment
    split
    · rename_i heq
      cases hname.isBare_of_append heq
    · rfl
  rw [endLine?, skipBlanks_of_isBareName hname, hcomment]
  unfold lineEnd?
  split
  · rename_i heq
    exact absurd heq (hname.append_ne_nil cs)
  · unfold newline?
    split
    · rename_i heq
      cases hname.isBare_of_append heq
    · rename_i heq
      cases hname.isBare_of_append heq
    · rfl

theorem name?_of_isBareName (cs : List Char) :
    name? (name.toList ++ ' ' :: cs) = some (name, ' ' :: cs) := by
  have htake : (name.toList ++ ' ' :: cs).takeWhile isBare = name.toList := by
    rw [List.takeWhile_append_of_pos hname.bare, List.takeWhile_cons_of_neg (by decide),
      List.append_nil]
  have hdrop : (name.toList ++ ' ' :: cs).dropWhile isBare = ' ' :: cs := by
    rw [List.dropWhile_append_of_pos hname.bare, List.dropWhile_cons_of_neg (by decide)]
  unfold name?
  split
  · rename_i heq
    cases hname.isBare_of_append heq
  · rename_i heq
    cases hname.isBare_of_append heq
  · rw [htake, hdrop]
    split
    · rename_i hnil
      exact absurd (String.toList_eq_nil_iff.mp hnil) hname.ne_empty
    · rw [String.ofList_toList]

theorem key?_of_isBareName (cs : List Char) :
    key? (name.toList ++ ' ' :: '=' :: cs) = some (⟨[], name⟩, '=' :: cs) := by
  -- One name is read, and no point follows it.
  rw [key?, depthLimit, namesWithin, skipBlanks_of_isBareName hname, name?_of_isBareName hname]
  rfl

/-- An entry is read as its name and whatever its value is read as. -/
theorem field?_of_isBareName (value : Reader Value) (cs : List Char) :
    field? value (name.toList ++ ' ' :: '=' :: ' ' :: cs) =
      (value (skipBlanks cs)).map fun (v, rest) => ((⟨[], name⟩, v), skipBlanks rest) := by
  rw [field?, key?_of_isBareName hname]
  change ((value (skipBlanks cs)).bind fun x =>
    some (((⟨[], name⟩ : Key), x.1), skipBlanks x.2)) = _
  rw [Option.map_eq_bind]
  rfl

theorem expression?_of_isBareName (cs : List Char) :
    expression? (name.toList ++ ' ' :: '=' :: ' ' :: cs) =
      (value? depthLimit (skipBlanks cs)).bind fun (v, rest) =>
        ending (.entry ⟨[], name⟩ v) (skipBlanks rest) := by
  unfold expression?
  split
  · rename_i heq
    cases hname.isBare_of_append heq
  · rename_i heq
    cases hname.isBare_of_append heq
  · rw [endLine?_of_isBareName hname, field?_of_isBareName hname]
    exact Option.bind_map

theorem skipMark_of_isBareName (cs : List Char) :
    skipMark (name.toList ++ cs) = name.toList ++ cs := by
  unfold skipMark
  split
  · rename_i heq
    cases hname.isBare_of_append heq
  · rfl

/-- The first step of reading a document that begins with a name. -/
theorem expressionsWithin_of_isBareName (n : Nat) (cs : List Char) :
    expressionsWithin (n + 1) [] (name.toList ++ cs) =
      (expression? (name.toList ++ cs)).bind fun (e, rest) => expressionsWithin n [e] rest := by
  rw [expressionsWithin, skipBlanks_of_isBareName hname]
  split
  · rename_i hnil
    exact absurd hnil (hname.append_ne_nil cs)
  · cases expression? (name.toList ++ cs) <;> rfl

variable {written : String}

/-- An entry whose value ends where the document ends is the whole table. -/
theorem parse?_entry {value : Value} {rest : List Char}
    (hvalue : value? depthLimit (skipBlanks written.toList) = some (value, rest))
    (hend : endLine? (skipBlanks rest) = some []) :
    parse? (name ++ " = " ++ written) = some [(name, value)] := by
  have hexpressions : expressions? (name ++ " = " ++ written) =
      some [.entry ⟨[], name⟩ value] := by
    rw [expressions?, toList_entry, skipMark_of_isBareName hname,
      expressionsWithin_of_isBareName hname, expression?_of_isBareName hname, hvalue]
    simp only [Option.bind_some, ending, hend, Option.map_some]
    -- The second step finds the end, and the length of the text leaves room for it.
    rw [List.length_append, List.length_cons, ← Nat.add_assoc]
    rfl
  rw [parse?, hexpressions]
  rfl

/-- An entry without a value is malformed. -/
theorem parse?_entry_eq_none (hvalue : value? depthLimit (skipBlanks written.toList) = none) :
    parse? (name ++ " = " ++ written) = none := by
  have hexpressions : expressions? (name ++ " = " ++ written) = none := by
    rw [expressions?, toList_entry, skipMark_of_isBareName hname,
      expressionsWithin_of_isBareName hname, expression?_of_isBareName hname, hvalue]
    rfl
  rw [parse?, hexpressions]
  rfl

/-- A line that gives a name an integer is read as that if the integer fits, and is malformed
    otherwise. -/
theorem parse?_integer (i : Int) {lineEnd : String} (hlineEnd : lineEnd ∈ ["", "\n", "\r\n"]) :
    parse? (name ++ " = " ++ (toString i ++ lineEnd)) =
      if fits i then some [(name, .integer i)] else none := by
  have hrest : EndsNumber lineEnd.toList ∧ endLine? (skipBlanks lineEnd.toList) = some [] := by
    simp only [List.mem_cons, List.not_mem_nil, or_false] at hlineEnd
    rcases hlineEnd with rfl | rfl | rfl
    · exact ⟨nofun, rfl⟩
    · exact ⟨by rintro c ⟨⟩; decide, rfl⟩
    · exact ⟨by rintro c ⟨⟩; decide, rfl⟩
  have hskip : skipBlanks (toString i ++ lineEnd).toList = (toString i).toList ++ lineEnd.toList := by
    rw [String.toList_append]
    exact skipBlanks_toString i _
  by_cases hfits : fits i = true
  · rw [if_pos hfits]
    refine parse?_entry hname ?_ hrest.2
    rw [hskip, value?_toString i hrest.1, if_pos hfits]
  · rw [if_neg hfits]
    refine parse?_entry_eq_none hname ?_
    rw [hskip, value?_toString i hrest.1, if_neg hfits]

end Entry

end Toml

end BufferFormat
