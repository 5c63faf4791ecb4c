import BufferFormat.Toml.Number

/-!
# Strings

The four kinds of string: with or without escapes, on one line or on several. A string on several
lines drops a line end directly after its opening quotes, has a plain line feed for each of its
line ends, and may hold one or two quotes anywhere, even directly before the closing ones.

## Main definitions

* `Toml.escape?`: What follows a backslash.
* `Toml.basic?`, `Toml.literal?`: Strings on one line.
* `Toml.basicLines?`, `Toml.literalLines?`: Strings on several lines.
* `Toml.quoted?`: Any string.
-/

namespace BufferFormat

namespace Toml

/-- The number that exactly `n` hexadecimal digits write, after `value`. -/
def hexNumber? : Nat → Nat → Reader Nat
  | 0, value, rest => some (value, rest)
  | _ + 1, _, [] => none
  | n + 1, value, c :: rest => (hexValue? c).bind fun d => hexNumber? n (value * 16 + d) rest

/-- The character of a code point that is a Unicode scalar value. -/
def codePoint? (n : Nat) : Option Char :=
  if n.isValidChar then some (Char.ofNat n) else none

/-- The character that an escape stands for, read after the backslash. -/
def escape? : Reader Char
  | 'b' :: rest => some ('\x08', rest)
  | 't' :: rest => some ('\t', rest)
  | 'n' :: rest => some ('\n', rest)
  | 'f' :: rest => some ('\x0c', rest)
  | 'r' :: rest => some ('\r', rest)
  | '"' :: rest => some ('"', rest)
  | '\\' :: rest => some ('\\', rest)
  | 'u' :: rest => (hexNumber? 4 0 rest).bind fun (n, rest) => (codePoint? n).map (·, rest)
  | 'U' :: rest => (hexNumber? 8 0 rest).bind fun (n, rest) => (codePoint? n).map (·, rest)
  | _ => none

/-- The body of a string with escapes on one line, in at most `n` steps; `read` holds what was read
    in reverse order. -/
def basicWithin : Nat → List Char → Reader String
  | 0, _, _ => none
  | _ + 1, _, [] => none
  | n + 1, read, c :: rest =>
    if c == '"' then some (String.ofList read.reverse, rest)
    else if c == '\\' then (escape? rest).bind fun (c, rest) => basicWithin n (c :: read) rest
    else if isText c then basicWithin n (c :: read) rest
    else none

/-- A string with escapes on one line, read after its opening quote. -/
def basic? (cs : List Char) : Option (String × List Char) :=
  basicWithin (cs.length + 1) [] cs

/-- The body of a string without escapes on one line. -/
def literalFrom (read : List Char) : Reader String
  | [] => none
  | c :: rest =>
    if c == '\x27' then some (String.ofList read.reverse, rest)
    else if isText c then literalFrom (c :: read) rest
    else none

/-- A string without escapes on one line, read after its opening quote. -/
def literal? : Reader String :=
  literalFrom []

/-- Drop a line end directly after opening quotes. -/
def dropFirstNewline (cs : List Char) : List Char :=
  (newline? cs).getD cs

/-- The end of a string on several lines, read where a quote stands: how many of the quotes belong
    to the string, if three of them close it. -/
def closing? (quote : Char) : Reader Nat
  | a :: b :: c :: d :: e :: rest =>
    if a == quote && b == quote && c == quote then
      if d == quote then if e == quote then some (2, rest) else some (1, e :: rest)
      else some (0, d :: e :: rest)
    else none
  | [a, b, c, d] =>
    if a == quote && b == quote && c == quote then
      if d == quote then some (1, []) else some (0, [d])
    else none
  | [a, b, c] => if a == quote && b == quote && c == quote then some (0, []) else none
  | _ => none

/-- Drop blanks and line ends, in at most `n` steps. -/
def skipBreaksWithin : Nat → List Char → List Char
  | 0, cs => cs
  | n + 1, cs =>
    match newline? (skipBlanks cs) with
    | some rest => skipBreaksWithin n rest
    | none => skipBlanks cs

/-- The body of a string with escapes on several lines, in at most `n` steps. -/
def basicLinesWithin : Nat → List Char → Reader String
  | 0, _, _ => none
  | _ + 1, _, [] => none
  | n + 1, read, c :: rest =>
    if c == '"' then
      match closing? '"' (c :: rest) with
      | some (quotes, rest) =>
        some (String.ofList (List.replicate quotes '"' ++ read).reverse, rest)
      | none => basicLinesWithin n (c :: read) rest
    else if c == '\\' then
      match newline? (skipBlanks rest) with
      | some rest => basicLinesWithin n read (skipBreaksWithin rest.length rest)
      | none => (escape? rest).bind fun (c, rest) => basicLinesWithin n (c :: read) rest
    else
      match newline? (c :: rest) with
      | some rest => basicLinesWithin n ('\n' :: read) rest
      | none => if isText c then basicLinesWithin n (c :: read) rest else none

/-- A string with escapes on several lines, read after its opening quotes. -/
def basicLines? (cs : List Char) : Option (String × List Char) :=
  basicLinesWithin (cs.length + 1) [] (dropFirstNewline cs)

/-- The body of a string without escapes on several lines, in at most `n` steps. -/
def literalLinesWithin : Nat → List Char → Reader String
  | 0, _, _ => none
  | _ + 1, _, [] => none
  | n + 1, read, c :: rest =>
    if c == '\x27' then
      match closing? '\x27' (c :: rest) with
      | some (quotes, rest) =>
        some (String.ofList (List.replicate quotes '\x27' ++ read).reverse, rest)
      | none => literalLinesWithin n (c :: read) rest
    else
      match newline? (c :: rest) with
      | some rest => literalLinesWithin n ('\n' :: read) rest
      | none => if isText c then literalLinesWithin n (c :: read) rest else none

/-- A string without escapes on several lines, read after its opening quotes. -/
def literalLines? (cs : List Char) : Option (String × List Char) :=
  literalLinesWithin (cs.length + 1) [] (dropFirstNewline cs)

/-- Any string. Three quotes open a string on several lines. -/
def quoted? : Reader String
  | '"' :: '"' :: '"' :: rest => basicLines? rest
  | '"' :: rest => basic? rest
  | '\x27' :: '\x27' :: '\x27' :: rest => literalLines? rest
  | '\x27' :: rest => literal? rest
  | _ => none

end Toml

end BufferFormat
