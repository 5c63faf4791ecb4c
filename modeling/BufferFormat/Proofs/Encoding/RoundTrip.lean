import BufferFormat.Encoding.Codec
import BufferFormat.Proofs.Encoding.CodePage
import BufferFormat.Proofs.Text.Utf16
import BufferFormat.Proofs.Text.Utf8

/-!
# Exact encodings

The encodings in which a text and its bytes determine each other.

The registry holds two kinds of encoding. In the multi-byte encodings of East
Asia several characters may share a byte sequence, and several byte sequences
a character, so that reading and writing are inverse only in part. The others
are exact: Unicode's own, the single-byte ones, and the user-defined one. For
these the strict reader accepts precisely what the writer produces, which the
modules below this one show for each by itself. Here the four families are
joined, and the result is carried over to labels.

Nothing is assumed of a label except what it resolves to. Blanks, case and the
spelling by which it was found do not matter, as both directions resolve it in
the same way.

## Main definitions

* `Encoding.IsExact`: The encodings in which text and bytes determine each other.
* `Encoding.IsUnicode`: The exact encodings that can hold every text.

## Theorems

* `encode?_eq_some_iff`: In an exact encoding, writing and reading are inverse.
* `exists_encode?`: An encoding of Unicode holds every text.
* `encodeText_eq_ok_iff`, `decodeBytes_eq_ok_iff`: Both directions by label, once the label is
  resolved.
* `encodeText_eq_ok_iff_of_isExact`: By label, writing and reading are inverse.
* `encodeText_decodeBytes_inverse`: The same, and that nothing fails to be written in Unicode.
-/

namespace BufferFormat

namespace Encoding

/-- The encodings in which a text and its bytes determine each other. -/
def IsExact : Encoding → Prop
  | .utf8 | .utf16 _ | .codePage _ | .userDefined => True
  | .gbk | .gb18030 | .big5 | .eucJp | .iso2022Jp | .shiftJis | .eucKr | .replacement => False

/-- The exact encodings that can hold every text. -/
def IsUnicode : Encoding → Prop
  | .utf8 | .utf16 _ => True
  | _ => False

/-- In an exact encoding, writing and reading are inverse partial functions. -/
theorem encode?_eq_some_iff (e : Encoding) (he : e.IsExact) (cs : List Char) (bs : List UInt8) :
    e.encode? cs = some bs ↔ e.decode? bs = some cs := by
  -- The three kinds that `IsExact` leaves each have a proof of their own.
  cases e with
  | utf8 => exact Utf8.decoder_undoes.run_stateless_eq_some_iff cs bs
  | utf16 o => exact (Utf16.decoder_undoes o).run_stateless_eq_some_iff cs bs
  | codePage page => exact page.run_encoder_eq_some_iff cs bs
  | userDefined => exact UserDefined.run_encoder_eq_some_iff cs bs
  | _ => exact he.elim

/-- An encoding of Unicode holds every text, as its encoder refuses no character. -/
theorem exists_encode? (e : Encoding) (he : e.IsUnicode) (cs : List Char) :
    ∃ bs, e.encode? cs = some bs := by
  cases e with
  | utf8 => exact ⟨_, Transducer.run_stateless_total String.utf8EncodeChar cs⟩
  | utf16 o =>
      exact ⟨_, Transducer.run_stateless_total (fun c => (Utf16.units c).flatMap o.bytes) cs⟩
  | _ => exact he.elim

end Encoding

/-! ## By label -/

section Label

variable {label : String} {e : Encoding}

theorem encodeText_eq_ok_iff (hl : Encoding.lookup label = .ok e) (text : String)
    (bytes : List UInt8) :
    encodeText text label = .ok bytes ↔ e.encode? text.toList = some bytes := by
  simp only [encodeText, hl, bind, Except.bind]
  rcases e.encode? text.toList with _ | bs
  · simp only [reduceCtorEq]
  · simp only [Except.ok.injEq, Option.some.injEq]

theorem decodeBytes_eq_ok_iff (hl : Encoding.lookup label = .ok e) (bytes : List UInt8)
    (text : String) :
    decodeBytes bytes label = .ok text ↔ e.decode? bytes = some text.toList := by
  simp only [decodeBytes, hl, bind, Except.bind]
  rcases e.decode? bytes with _ | cs
  · simp only [reduceCtorEq]
  · simp only [Except.ok.injEq, Option.some.injEq]
    constructor
    -- A text and the list of its characters are the same thing.
    · intro h
      rw [← h, String.toList_ofList]
    · intro h
      rw [h, String.ofList_toList]

/-- By a label of an exact encoding, a text is written as those bytes that are read as it. -/
theorem encodeText_eq_ok_iff_of_isExact (hl : Encoding.lookup label = .ok e) (he : e.IsExact)
    (text : String) (bytes : List UInt8) :
    encodeText text label = .ok bytes ↔ decodeBytes bytes label = .ok text := by
  rw [encodeText_eq_ok_iff hl, decodeBytes_eq_ok_iff hl, e.encode?_eq_some_iff he]

end Label

/-- By any label of an exact encoding, writing and reading are inverse partial functions, and
    nothing fails to be written in an encoding of Unicode. -/
theorem encodeText_decodeBytes_inverse (label : String) (e : Encoding)
    (hl : Encoding.lookup label = .ok e) (he : e.IsExact) (text : String) :
    (∀ bytes : List UInt8,
      encodeText text label = .ok bytes ↔ decodeBytes bytes label = .ok text) ∧
      (e.IsUnicode → ∃ bytes, encodeText text label = .ok bytes) := by
  refine ⟨encodeText_eq_ok_iff_of_isExact hl he text, fun hu => ?_⟩
  rcases e.exists_encode? hu text.toList with ⟨bytes, hbytes⟩
  exact ⟨bytes, (encodeText_eq_ok_iff hl text bytes).mpr hbytes⟩

/-- A codec spelling of big-endian UTF-16, and a text with a leading U+FEFF and a surrogate pair:
    both are kept. -/
theorem encodeText_decodeBytes_inverse_utf16 :
    Encoding.lookup " UTF_16_be\n" = .ok (.utf16 .big) ∧
      encodeText "\uFEFF😀" " UTF_16_be\n" = .ok [0xFE, 0xFF, 0xD8, 0x3D, 0xDE, 0x00] ∧
      decodeBytes [0xFE, 0xFF, 0xD8, 0x3D, 0xDE, 0x00] " UTF_16_be\n" = .ok "\uFEFF😀" := by
  have hl : Encoding.lookup " UTF_16_be\n" = .ok (.utf16 .big) := by rfl
  have hb : encodeText "\uFEFF😀" " UTF_16_be\n" = .ok [0xFE, 0xFF, 0xD8, 0x3D, 0xDE, 0x00] := by
    rfl
  have hinverse := encodeText_decodeBytes_inverse " UTF_16_be\n" (.utf16 .big) hl trivial
    "\uFEFF😀"
  exact ⟨hl, hb, (hinverse.1 _).mp hb⟩

end BufferFormat
