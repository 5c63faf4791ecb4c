/-!
# TOML values

A document is a table. Besides its entries a table remembers how it came to be, because that
decides what later lines may still add to it.

## Main definitions

* `Toml.Origin`: How a table came to be.
* `Toml.Value`: The values of a document.
* `Toml.Entries`: The entries of a table, in the order of the document.
-/

namespace BufferFormat

namespace Toml

/-- How a table came to be. -/
inductive Origin where
  /-- In passing, as part of the header of another table. -/
  | implied
  /-- By a dotted key. -/
  | dotted
  /-- By a header of its own, or as the document. -/
  | headed
  /-- As a value between braces, complete from the start. -/
  | inline
  deriving DecidableEq, Repr

/-- The values of a document. Floats and date-times are kept as they were written. -/
inductive Value where
  | string (s : String)
  | integer (i : Int)
  | float (text : String)
  | boolean (b : Bool)
  | datetime (text : String)
  | array (items : List Value)
  | table (origin : Origin) (entries : List (String × Value))
  /-- The tables that repeated headers in double brackets make. -/
  | tables (elements : List (List (String × Value)))
  deriving Repr

/-- The entries of a table, in the order of the document. -/
abbrev Entries := List (String × Value)

/-- A reader takes the beginning of a text and gives the rest. -/
abbrev Reader (α : Type) := List Char → Option (α × List Char)

end Toml

end BufferFormat
