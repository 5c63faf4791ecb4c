import BufferFormat.Proofs.Encoding.DoubleByte
import BufferFormat.Proofs.Encoding.Gb18030
import BufferFormat.Proofs.Encoding.Japanese
import BufferFormat.Proofs.Encoding.RoundTrip

/-!
# What is read back after it was written

A text that an encoding can hold need not come back from it as it was. An encoder
refuses the characters that it has no bytes for, but a few it writes with the
bytes of others, and nothing tells the two apart afterwards. `Encoding.readBack`
says for every encoding what each character becomes, and the result of this
module is that nothing else ever happens: what was written is read again, with
each character replaced by what it is read back as.

In most encodings no character is folded. The exceptions are those of the modules
below this one: the yen sign, the overline and the minus sign in EUC-JP and
Shift_JIS, the minus sign and half-width katakana in ISO-2022-JP, and eighteen
private use characters in GBK and GB 18030. None of them is in ASCII, so source
text in ASCII comes back unchanged from all encodings.

## Main definitions

* `Encoding.readBack`: What a character is read back as.

## Theorems

* `Encoding.decode?_of_encode?`: What was written is read, with each character read back.
* `Encoding.readBack_of_lt`: No character of ASCII is folded.
* `decodeBytes_encodeText`: The same by label.
-/

namespace BufferFormat

namespace Encoding

/-- What a character is read back as after it was written in an encoding. -/
def readBack : Encoding → Char → Char
  | .gbk | .gb18030 => Gb18030.readBack
  | .eucJp | .shiftJis => Jis.readBack
  | .iso2022Jp => Iso2022Jp.widened
  | .utf8 | .utf16 _ | .codePage _ | .userDefined | .big5 | .eucKr | .replacement => id

/-- No character of ASCII is folded by any encoding. -/
theorem readBack_of_lt (e : Encoding) {c : Char} (h : c.toNat < 0x80) : e.readBack c = c := by
  cases e with
  | gbk =>
      rw [readBack]
      exact Gb18030.readBack_of_lookup (Gb18030.lookup_formerCodes (by omega))
  | gb18030 =>
      rw [readBack]
      exact Gb18030.readBack_of_lookup (Gb18030.lookup_formerCodes (by omega))
  | eucJp => exact Jis.readBack_of_le (Nat.le_of_lt h)
  | shiftJis => exact Jis.readBack_of_le (Nat.le_of_lt h)
  | iso2022Jp =>
      rw [readBack]
      exact Iso2022Jp.widened_of_lt h
  | _ => rfl

/-- What was written is read, with each character read back. Only what stands for unsafe encodings
    has a reader that refuses every text but the empty one. -/
theorem decode?_of_encode? {e : Encoding} (he : e ≠ .replacement) {cs : List Char}
    {bs : List UInt8} (h : e.encode? cs = some bs) : e.decode? bs = some (cs.map e.readBack) := by
  cases e with
  | replacement => exact absurd rfl he
  | gbk => exact Gbk.run_decoder cs bs h
  | gb18030 => exact Gb18030.run_decoder cs bs h
  | eucJp => exact EucJp.run_decoder cs bs h
  | shiftJis => exact ShiftJis.run_decoder cs bs h
  | iso2022Jp => exact Iso2022Jp.run_decoder cs bs h
  | big5 =>
      rw [readBack, List.map_id]
      exact Big5.run_decoder cs bs h
  | eucKr =>
      rw [readBack, List.map_id]
      exact EucKr.run_decoder cs bs h
  | utf8 =>
      rw [readBack, List.map_id]
      exact (encode?_eq_some_iff .utf8 trivial cs bs).mp h
  | utf16 order =>
      rw [readBack, List.map_id]
      exact (encode?_eq_some_iff (.utf16 order) trivial cs bs).mp h
  | codePage page =>
      rw [readBack, List.map_id]
      exact (encode?_eq_some_iff (.codePage page) trivial cs bs).mp h
  | userDefined =>
      rw [readBack, List.map_id]
      exact (encode?_eq_some_iff .userDefined trivial cs bs).mp h

/-- Whatever is read from what was written, it is the text read back. -/
theorem eq_of_encode?_of_decode? {e : Encoding} {cs cs' : List Char} {bs : List UInt8}
    (h : e.encode? cs = some bs) (hd : e.decode? bs = some cs') : cs' = cs.map e.readBack := by
  by_cases he : e = .replacement
  · -- The reader takes no byte, and the writer, which is that of UTF-8, writes some for any text.
    subst he
    cases bs with
    | nil =>
        cases hd
        have hnil := (encode?_eq_some_iff .utf8 trivial cs []).mp h
        cases hnil
        rfl
    | cons b bs => cases hd
  · rw [decode?_of_encode? he h] at hd
    exact (Option.some.inj hd).symm

end Encoding

/-- A text is only encoded by a label that names an encoding. -/
theorem exists_lookup_of_encodeText {text label : String} {bytes : List UInt8}
    (h : encodeText text label = .ok bytes) : ∃ e, Encoding.lookup label = .ok e := by
  cases hl : Encoding.lookup label with
  | error fault =>
      simp only [encodeText, hl, bind, Except.bind, reduceCtorEq] at h
  | ok e => exact ⟨e, rfl⟩

/-- By any label, what is read from an encoded text is the text with each character read back. -/
theorem decodeBytes_encodeText {label : String} {e : Encoding}
    (hl : Encoding.lookup label = .ok e) {text text' : String} {bytes : List UInt8}
    (h : encodeText text label = .ok bytes) (hd : decodeBytes bytes label = .ok text') :
    text' = String.ofList (text.toList.map e.readBack) := by
  rw [encodeText_eq_ok_iff hl] at h
  rw [decodeBytes_eq_ok_iff hl] at hd
  rw [← e.eq_of_encode?_of_decode? h hd, String.ofList_toList]

end BufferFormat
