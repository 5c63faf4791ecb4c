import BufferFormat.Host.File
import BufferFormat.Proofs.Encoding.Label
import BufferFormat.Proofs.Encoding.RoundTrip
import BufferFormat.Proofs.Session

/-!
# From a file to the formatter

A file host settles the label of its file twice. When the file is opened, the label is negotiated
from the command line, from a lossy reading of the bytes and from a default. When a run is
prepared, it is negotiated once more, now from the label that the host reports, from the decoded
text and from a configuration that may have another default.

The second negotiation could disagree with the first in three ways: a report that is empty, or that
says "undefined", is passed over, and blanks around a report are cut off. A label by which a file
was decoded names an encoding, which rules out the first two and makes the third harmless. In an
exact encoding the formatter therefore reads the bytes of the file, each of them.

## Theorems

* `decodeBytes_trim`: Blanks around a label do not count.
* `prepare_of_reported`: A run over a decoded text is prepared with the bytes of it.
* `FileHost.ofBytes_eq_ok`, `FileHost.openFile_eq_ok`: What a host holds after its file was decoded.
* `FileHost.prepare_of_ofBytes`: A run over an opened file is prepared with the bytes of the file.
-/

namespace BufferFormat

/-- Blanks around a label do not change what bytes are decoded to. -/
theorem decodeBytes_trim (label : String) (e : Encoding) (hl : Encoding.lookup label = .ok e)
    (bytes : List UInt8) (text : String) :
    decodeBytes bytes (Text.trim label) = .ok text ↔ decodeBytes bytes label = .ok text := by
  have htrim : Encoding.lookup (Text.trim label) = .ok e := by
    rw [Encoding.lookup_trim]
    exact hl
  rw [decodeBytes_eq_ok_iff htrim, decodeBytes_eq_ok_iff hl]

/-- A run over a text that was decoded from bytes, by the label that the host reports, is prepared
    with these bytes. -/
theorem prepare_of_reported (view : View) (label : String) (e : Encoding) (bytes : List UInt8)
    (hview : view.buffer.encoding = some label) (hl : Encoding.lookup label = .ok e)
    (he : e.IsExact) (hd : decodeBytes bytes label = .ok view.buffer.text) (w : World)
    (config : Config) (platform : Platform) (mode : Mode) :
    ∃ prepared, prepare w config platform view mode = .ok prepared ∧
      prepared.encoding = Text.trim label ∧ prepared.request.input = bytes := by
  have hlabel : negotiate view.buffer.encoding view.buffer.text.toList config.defaultEncoding =
      Text.trim label := by
    rw [hview]
    exact negotiate_of_lookup label e hl _ _
  have htrim : Encoding.lookup (Text.trim label) = .ok e := by
    rw [Encoding.lookup_trim]
    exact hl
  have hencoded : encodeText view.buffer.text (negotiate view.buffer.encoding
      view.buffer.text.toList config.defaultEncoding) = .ok bytes := by
    -- Both labels name the one encoding, in which the bytes are the only spelling of the text.
    rw [hlabel, encodeText_eq_ok_iff_of_isExact htrim he, decodeBytes_trim label e hl]
    exact hd
  rcases exists_prepare w config platform view mode bytes hencoded with
    ⟨prepared, hprepared, hinput⟩
  have hnegotiated := encoding_of_prepare w config platform view mode prepared hprepared
  exact ⟨prepared, hprepared, hnegotiated.trans hlabel, hinput⟩

namespace FileHost

/-- A host holds what its file was decoded to, with the label by which it was. -/
theorem ofBytes_eq_ok {path : Option Path} {bytes : List UInt8} {declared : Option String}
    {default : String} {output : Output} {h : FileHost}
    (hopen : ofBytes path bytes declared default output = .ok h) :
    decodeBytes bytes h.encoding = .ok h.text ∧ h.path = path ∧ h.output = output := by
  unfold ofBytes at hopen
  cases hd : decodeBytes bytes (labelFor bytes declared default) with
  | error fault =>
    simp only [hd] at hopen
    cases hopen
  | ok text =>
    simp only [hd] at hopen
    cases hopen
    exact ⟨hd, rfl, rfl⟩

/-- A host that was opened holds what the contents of its file were decoded to. -/
theorem openFile_eq_ok {w : World} {path : Path} {declared : Option String} {default : String}
    {output : Output} {h : FileHost} (hopen : openFile w path declared default output = .ok h) :
    ∃ bytes, w.readFile path = .ok bytes ∧
      ofBytes (some path) bytes declared default output = .ok h := by
  unfold openFile at hopen
  cases hread : w.readFile path with
  | error fault =>
    rw [hread] at hopen
    cases hopen
  | ok bytes =>
    rw [hread] at hopen
    exact ⟨bytes, rfl, hopen⟩

/-- A label that names an encoding is taken up by a run as the host reports it, but for blanks. -/
theorem negotiate_view (h : FileHost) (w : World) (config : Config) (e : Encoding)
    (hl : Encoding.lookup h.encoding = .ok e) :
    negotiate (h.view w).buffer.encoding (h.view w).buffer.text.toList config.defaultEncoding =
      Text.trim h.encoding :=
  negotiate_of_lookup h.encoding e hl _ _

/-- A run over a text that was decoded from bytes is prepared with these bytes. -/
theorem prepare_of_decoded (h : FileHost) (e : Encoding) (bytes : List UInt8)
    (hl : Encoding.lookup h.encoding = .ok e) (he : e.IsExact)
    (hd : decodeBytes bytes h.encoding = .ok h.text) (w : World) (config : Config)
    (platform : Platform) (mode : Mode) :
    ∃ prepared, prepare w config platform (h.view w) mode = .ok prepared ∧
      prepared.encoding = Text.trim h.encoding ∧ prepared.request.input = bytes :=
  prepare_of_reported (h.view w) h.encoding e bytes rfl hl he hd w config platform mode

/-- A run over an opened file is prepared under the label by which the file was decoded, whatever
    the configuration says, and is fed with the bytes of the file. -/
theorem prepare_of_ofBytes (path : Option Path) (bytes : List UInt8) (declared : Option String)
    (default : String) (output : Output) (h : FileHost) (e : Encoding)
    (hopen : ofBytes path bytes declared default output = .ok h)
    (hl : Encoding.lookup h.encoding = .ok e) (he : e.IsExact) (w : World) (config : Config)
    (platform : Platform) (mode : Mode) :
    ∃ prepared, prepare w config platform (h.view w) mode = .ok prepared ∧
      prepared.encoding = Text.trim h.encoding ∧
      Encoding.lookup prepared.encoding = .ok e ∧
      prepared.request.input = bytes := by
  rcases ofBytes_eq_ok hopen with ⟨hd, _, _⟩
  rcases prepare_of_decoded h e bytes hl he hd w config platform mode with
    ⟨prepared, hprepared, hlabel, hinput⟩
  refine ⟨prepared, hprepared, hlabel, ?_, hinput⟩
  rw [hlabel, Encoding.lookup_trim]
  exact hl

/-- A file that is opened by a default with blanks around it. The configuration of the run has
    another default, which does not count. -/
theorem prepare_of_ofBytes_latin1 :
    ∃ prepared,
      prepare ⟨⟨[]⟩, [], .empty, fun _ => none⟩ { defaultEncoding := "utf-16" } .unix
        (view ⟨none, "xé", " Latin_1\n", .stdout, false, false⟩
          ⟨⟨[]⟩, [], .empty, fun _ => none⟩) .diff = .ok prepared ∧
      prepared.encoding = Text.trim " Latin_1\n" ∧
      Encoding.lookup prepared.encoding = .ok (.codePage .windows1252) ∧
      prepared.request.input = [0x78, 0xE9] := by
  have hopen : ofBytes none [0x78, 0xE9] none " Latin_1\n" .stdout =
      .ok ⟨none, "xé", " Latin_1\n", .stdout, false, false⟩ := by rfl
  have hl : Encoding.lookup " Latin_1\n" = .ok (.codePage .windows1252) := by rfl
  exact prepare_of_ofBytes none [0x78, 0xE9] none " Latin_1\n" .stdout _ (.codePage .windows1252)
    hopen hl trivial _ _ _ _

end FileHost

end BufferFormat
