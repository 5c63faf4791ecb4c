import BufferFormat.Toml.Value

/-!
# Blanks, comments and line ends

What stands between the parts of a document. Nothing here is part of a value, yet a comment with a
control character makes the document malformed, as the rest of its line is then not a line end.

## Main definitions

* `Toml.skipBlanks`: Spaces and tabs.
* `Toml.newline?`, `Toml.lineEnd?`: A line feed, or the end of the text.
* `Toml.endLine?`: What may follow an expression on its line.
* `Toml.skipFiller`: What may stand between the elements of an array.
-/

namespace BufferFormat

namespace Toml

/-- Spaces and tabs. -/
def isBlank (c : Char) : Bool :=
  c == ' ' || c == '\t'

/-- Drop spaces and tabs. -/
def skipBlanks (cs : List Char) : List Char :=
  cs.dropWhile isBlank

/-- The characters that text may hold: no control character but the tab. -/
def isText (c : Char) : Bool :=
  c == '\t' || (0x20 ≤ c.toNat && c.toNat != 0x7F)

/-- What follows a line feed, with or without a carriage return before it. -/
def newline? : List Char → Option (List Char)
  | '\n' :: rest => some rest
  | '\r' :: '\n' :: rest => some rest
  | _ => none

/-- What follows the end of a line, which may be the end of the text. -/
def lineEnd? : List Char → Option (List Char)
  | [] => some []
  | cs => newline? cs

/-- Drop a comment, up to the end of its line. -/
def skipComment : List Char → List Char
  | '#' :: rest => rest.dropWhile isText
  | cs => cs

/-- What follows the end of a line that may hold blanks and a comment. -/
def endLine? (cs : List Char) : Option (List Char) :=
  lineEnd? (skipComment (skipBlanks cs))

/-- Drop blanks, line ends and comments with their line ends, in at most `n` steps. -/
def skipFillerWithin : Nat → List Char → List Char
  | 0, cs => cs
  | n + 1, cs =>
    match newline? (skipComment (skipBlanks cs)) with
    | some rest => skipFillerWithin n rest
    | none => skipBlanks cs

/-- Drop blanks, line ends and comments with their line ends. Every step drops a line end, so the
    length of the text bounds the steps. -/
def skipFiller (cs : List Char) : List Char :=
  skipFillerWithin cs.length cs

end Toml

end BufferFormat
