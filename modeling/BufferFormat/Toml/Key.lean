import BufferFormat.Toml.Quoted

/-!
# Keys

A key is a path of names with points between them. Blanks around a name do not matter.

## Main definitions

* `Toml.name?`: One name, bare or quoted.
* `Toml.Key`: A path and the name at its end.
* `Toml.key?`: A key of fewer than eighty names.
-/

namespace BufferFormat

namespace Toml

/-- The characters of a name without quotes. -/
def isBare (c : Char) : Bool :=
  isDigit c || ('a' ≤ c && c ≤ 'z') || ('A' ≤ c && c ≤ 'Z') || c == '_' || c == '-'

/-- One name. Quotes do not span lines here. -/
def name? : Reader String
  | '"' :: rest => basic? rest
  | '\x27' :: rest => literal? rest
  | cs =>
    match cs.takeWhile isBare with
    | [] => none
    | name => some (String.ofList name, cs.dropWhile isBare)

/-- The path to a table and a name in it. -/
structure Key where
  path : List String
  name : String
  deriving DecidableEq, Repr

/-- The names of a key, at most `n`; `path` holds those that were read, in reverse order. -/
def namesWithin : Nat → List String → Reader Key
  | 0, _, _ => none
  | n + 1, path, cs =>
    match name? (skipBlanks cs) with
    | none => none
    | some (name, rest) =>
      match skipBlanks rest with
      | '.' :: rest => namesWithin n (name :: path) rest
      | rest => some (⟨path.reverse, name⟩, rest)

/-- How many names a key may have, and how deep values may nest. -/
def depthLimit : Nat := 79

/-- A key, with the blanks around it. -/
def key? : Reader Key :=
  namesWithin depthLimit []

end Toml

end BufferFormat
