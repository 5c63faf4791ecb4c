import BufferFormat.Fault
import BufferFormat.Encoding.Label

/-!
# Encoding and decoding by label

Both directions of one run use the same label, so what the formatter is fed and what it answers
are read alike. A fault names the label as it was given.

## Main definitions

* `Encoding.lookup`: The encoding of a label.
* `encodeText`: The bytes of a text.
* `decodeBytes`: The text of bytes.
-/

namespace BufferFormat

/-- The encoding of a label. Blanks around it do not count. -/
def Encoding.lookup (label : String) : Except Fault Encoding :=
  match Label.resolve? (Text.trimChars label.toList) with
  | some e => .ok e
  | none => .error (.unknownEncoding (Text.trim label))

/-- The bytes of a text in the encoding of a label. -/
def encodeText (text label : String) : Except Fault (List UInt8) := do
  let e ← Encoding.lookup label
  match e.encode? text.toList with
  | some bytes => .ok bytes
  | none => .error (.unencodable label)

/-- The text of bytes in the encoding of a label. -/
def decodeBytes (bytes : List UInt8) (label : String) : Except Fault String := do
  let e ← Encoding.lookup label
  match e.decode? bytes with
  | some text => .ok (String.ofList text)
  | none => .error (.undecodable label)

end BufferFormat
