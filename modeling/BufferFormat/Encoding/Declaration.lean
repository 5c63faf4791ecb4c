import BufferFormat.Text.Blank
import BufferFormat.Text.Lines
import BufferFormat.Text.Search
import BufferFormat.Text.Word

/-!
# Coding declarations

A text may declare its encoding on one of its first two lines: the word `coding`, a colon or an
equals sign, blanks, and a label of word characters, hyphens and dots. The declaration may stand
anywhere in its line.

## Main definitions

* `Declaration.labelHere?`: The label of a declaration that starts here.
* `Declaration.inLine?`: The label of the first declaration of a line.
* `Declaration.inText?`: The label that a text declares.
* `negotiate`: The label for a buffer, from its host, its text and a default.
-/

namespace BufferFormat

namespace Declaration

/-- The word that starts a declaration. -/
def keyword : List Char := "coding".toList

/-- The characters of a label. -/
def isLabelChar (c : Char) : Bool :=
  c == '-' || c == '.' || Text.isWord c

/-- The label after a keyword, if a separator, optional blanks and a label follow. -/
def labelAfter? : List Char → Option (List Char)
  | [] => none
  | c :: rest =>
    if c == ':' || c == '=' then
      match (rest.dropWhile Text.isBlank).takeWhile isLabelChar with
      | [] => none
      | label => some label
    else none

/-- The label of a declaration that starts at the first character. -/
def labelHere? (cs : List Char) : Option (List Char) :=
  (Text.stripPrefix? keyword cs).bind labelAfter?

/-- The label of the first declaration of a line. -/
def inLine? : List Char → Option (List Char)
  | [] => none
  | c :: rest =>
    match labelHere? (c :: rest) with
    | some label => some label
    | none => inLine? rest

/-- How many lines of a text may hold its declaration. -/
def declaringLines : Nat := 2

/-- The label that a text declares. -/
def inText? (cs : List Char) : Option (List Char) :=
  (Text.leadingLines declaringLines cs).findSome? inLine?

end Declaration

/-- The label under which a host says that it does not know the encoding. -/
def undefinedLabel : String := "undefined"

/-- What a host reports about a buffer's encoding, if that tells anything. -/
def reportedLabel? (declared : Option String) : Option String :=
  match declared.map Text.trim with
  | none => none
  | some label =>
    if label.isEmpty || label.toList.map Char.toLower == undefinedLabel.toList then none
    else some label

/-- The label for a buffer: the host's report, else the declaration in the text, else the
    default. -/
def negotiate (declared : Option String) (text : List Char) (default : String) : String :=
  match reportedLabel? declared with
  | some label => label
  | none =>
    match Declaration.inText? text with
    | some label => String.ofList label
    | none => default

end BufferFormat
