/-!
# Lines

A line ends at a line feed, and one carriage return directly before that line feed belongs to the
line end. The last line may lack a line end; a carriage return at its end is then text.

## Main definitions

* `nextLine`: The first line and what follows its line end.
* `leadingLines`: The first lines of a text, at most a given number.
-/

namespace BufferFormat

namespace Text

/-- Drop one carriage return from the end. -/
def dropReturn (line : List Char) : List Char :=
  match line.getLast? with
  | some '\r' => line.dropLast
  | _ => line

/-- The first line without its line end, and everything after that line end. -/
def nextLine (cs : List Char) : List Char × List Char :=
  match cs.span (· != '\n') with
  | (line, []) => (line, [])
  | (line, _ :: rest) => (dropReturn line, rest)

/-- The first `n` lines, or all of them when the text is shorter. An empty text has no line. -/
def leadingLines : Nat → List Char → List (List Char)
  | 0, _ => []
  | _ + 1, [] => []
  | n + 1, c :: cs => (nextLine (c :: cs)).1 :: leadingLines n (nextLine (c :: cs)).2

end Text

end BufferFormat
