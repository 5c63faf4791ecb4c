/-!
# Splitting at a separator

## Main definitions

* `splitAt`: The pieces between the separators, one more than there are separators.
* `joinWith`: The inverse.
-/

namespace BufferFormat

namespace Text

/-- The pieces of a text between occurrences of `sep`. -/
def splitAt (sep : Char) : List Char → List (List Char)
  | [] => [[]]
  | c :: cs =>
    if c == sep then [] :: splitAt sep cs
    else
      match splitAt sep cs with
      | [] => [[c]]
      | piece :: pieces => (c :: piece) :: pieces

/-- Pieces with `sep` between them. -/
def joinWith (sep : Char) : List (List Char) → List Char
  | [] => []
  | [piece] => piece
  | piece :: pieces => piece ++ sep :: joinWith sep pieces

end Text

end BufferFormat
