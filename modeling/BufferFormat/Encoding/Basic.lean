import BufferFormat.Text.Utf8
import BufferFormat.Text.Utf16
import BufferFormat.Encoding.CodePage
import BufferFormat.Encoding.ShiftJis
import BufferFormat.Encoding.EucJp
import BufferFormat.Encoding.Iso2022Jp
import BufferFormat.Encoding.Gb18030
import BufferFormat.Encoding.Big5
import BufferFormat.Encoding.EucKr

/-!
# Encodings

The encodings that a buffer can have, each with its decoder and its encoder. No decoder looks at a
byte order mark: it is the caller's label that decides, and U+FEFF is a character like any other.

## Main definitions

* `Encoding`: The encodings.
* `Encoding.decoder`, `Encoding.encoder`: How each is read and written.
* `Encoding.decode?`, `Encoding.encode?`: Reading and writing a whole text.
-/

namespace BufferFormat

/-- The encodings that a buffer can have. -/
inductive Encoding where
  | utf8
  | utf16 (order : Utf16.ByteOrder)
  | codePage (page : CodePage)
  | userDefined
  | gbk
  | gb18030
  | big5
  | eucJp
  | iso2022Jp
  | shiftJis
  | eucKr
  /-- Stands for encodings that are unsafe to read: only the empty text can be. -/
  | replacement
  deriving DecidableEq, Repr

namespace Encoding

/-- The registered name. -/
def name : Encoding → String
  | .utf8 => "UTF-8"
  | .utf16 .little => "UTF-16LE"
  | .utf16 .big => "UTF-16BE"
  | .codePage page => page.name
  | .userDefined => "x-user-defined"
  | .gbk => "GBK"
  | .gb18030 => "gb18030"
  | .big5 => "Big5"
  | .eucJp => "EUC-JP"
  | .iso2022Jp => "ISO-2022-JP"
  | .shiftJis => "Shift_JIS"
  | .eucKr => "EUC-KR"
  | .replacement => "replacement"

/-- How bytes in the encoding are read. -/
def decoder : Encoding → Transducer UInt8 Char
  | .utf8 => Utf8.decoder
  | .utf16 order => Utf16.decoder order
  | .codePage page => page.decoder
  | .userDefined => UserDefined.decoder
  | .gbk | .gb18030 => Gb18030.decoder
  | .big5 => Big5.decoder
  | .eucJp => EucJp.decoder
  | .iso2022Jp => Iso2022Jp.decoder
  | .shiftJis => ShiftJis.decoder
  | .eucKr => EucKr.decoder
  | .replacement => .stateless fun _ => none

/-- How text is written in the encoding. What may not be read is written as UTF-8. -/
def encoder : Encoding → Transducer Char UInt8
  | .utf8 | .replacement => Utf8.encoder
  | .utf16 order => Utf16.encoder order
  | .codePage page => page.encoder
  | .userDefined => UserDefined.encoder
  | .gbk => Gbk.encoder
  | .gb18030 => Gb18030.encoder
  | .big5 => Big5.encoder
  | .eucJp => EucJp.encoder
  | .iso2022Jp => Iso2022Jp.encoder
  | .shiftJis => ShiftJis.encoder
  | .eucKr => EucKr.encoder

/-- The text of bytes that are well-formed in the encoding. -/
def decode? (e : Encoding) (bytes : List UInt8) : Option (List Char) :=
  e.decoder.run bytes

/-- The bytes of a text that the encoding can hold. -/
def encode? (e : Encoding) (text : List Char) : Option (List UInt8) :=
  e.encoder.run text

end Encoding

end BufferFormat
