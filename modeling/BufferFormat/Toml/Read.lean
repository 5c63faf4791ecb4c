import BufferFormat.Toml.DateTime
import BufferFormat.Toml.Key
import BufferFormat.Toml.Table

/-!
# Reading values

## Main definitions

* `Toml.scalar?`: A value that holds no others.
* `Toml.itemsWithin`: The elements of an array.
* `Toml.fieldsWithin`: The entries of a table between braces.
* `Toml.value?`: Any value that nests no deeper than a bound.
-/

namespace BufferFormat

namespace Toml

/-- A value that holds no others. A text that begins like a date is a date, and one that begins like
    a float is a float. -/
def scalar? : Reader Value
  | 't' :: 'r' :: 'u' :: 'e' :: rest => some (.boolean true, rest)
  | 'f' :: 'a' :: 'l' :: 's' :: 'e' :: rest => some (.boolean false, rest)
  | cs =>
    ((quoted? cs).map fun (s, rest) => (.string s, rest)) <|>
    ((datetime? cs).map fun (s, rest) => (.datetime s, rest)) <|>
    ((float? cs).map fun (s, rest) => (.float s, rest)) <|>
    ((integer? cs).map fun (i, rest) => (.integer i, rest))

/-- The elements of an array up to its closing bracket, at most `n`. A comma may follow the last. -/
def itemsWithin (value : Reader Value) : Nat → List Value → Reader (List Value)
  | 0, _, _ => none
  | n + 1, items, cs =>
    match skipFiller cs with
    | ']' :: rest => some (items.reverse, rest)
    | cs =>
      match value cs with
      | none => none
      | some (item, rest) =>
        match skipFiller rest with
        | ',' :: rest => itemsWithin value n (item :: items) rest
        | ']' :: rest => some ((item :: items).reverse, rest)
        | _ => none

/-- A key, an equals sign and a value, with the blanks around them. -/
def field? (value : Reader Value) (cs : List Char) : Option ((Key × Value) × List Char) := do
  let (key, rest) ← key? cs
  let (_, rest) ← char? '=' rest
  let (value, rest) ← value (skipBlanks rest)
  return ((key, value), skipBlanks rest)

/-- The entries of a table between braces up to its closing brace, at least one and at most `n`. No
    comma follows the last, and all stand on one line. -/
def fieldsWithin (value : Reader Value) : Nat → Entries → Reader Entries
  | 0, _, _ => none
  | n + 1, entries, cs =>
    match field? value cs with
    | none => none
    | some ((key, value'), rest) =>
      match insert? key.path key.name value' .inline entries with
      | none => none
      | some entries =>
        match rest with
        | ',' :: rest => fieldsWithin value n entries rest
        | '}' :: rest => some (entries, rest)
        | _ => none

/-- A value in which arrays and tables nest at most `n` deep. -/
def value? : Nat → Reader Value
  | n + 1, '[' :: rest =>
    (itemsWithin (value? n) (rest.length + 1) [] rest).map fun (items, rest) =>
      (.array items, rest)
  | n + 1, '{' :: rest =>
    match skipBlanks rest with
    | '}' :: rest => some (.table .inline [], rest)
    | rest =>
      (fieldsWithin (value? n) (rest.length + 1) [] rest).map fun (entries, rest) =>
        (.table .inline entries, rest)
  | _, cs => scalar? cs

end Toml

end BufferFormat
