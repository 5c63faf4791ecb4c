import BufferFormat.Toml.Read

/-!
# Documents

A document is a sequence of expressions, of which each ends its line. Reading one yields
expressions; building the table from them decides whether they agree with each other.

## Main definitions

* `Toml.Expression`: What a line may hold.
* `Toml.expression?`: The first expression of a text.
* `Toml.Document`: The table so far and the header that is open.
* `Toml.parse?`: The table of a document.
-/

namespace BufferFormat

namespace Toml

/-- What a line may hold. -/
inductive Expression where
  /-- Nothing, or a comment. -/
  | blank
  /-- A header in brackets. -/
  | header (key : Key)
  /-- A header in double brackets. -/
  | element (key : Key)
  | entry (key : Key) (value : Value)
  deriving Repr

/-- An expression whose line may only hold blanks and a comment after it. -/
def ending (expression : Expression) (rest : List Char) : Option (Expression × List Char) :=
  (endLine? rest).map (expression, ·)

/-- The first expression of a text that does not begin with a blank and is not empty. -/
def expression? : Reader Expression
  | '[' :: '[' :: rest => do
    let (key, rest) ← key? rest
    let (_, rest) ← char? ']' rest
    let (_, rest) ← char? ']' rest
    ending (.element key) rest
  | '[' :: rest => do
    let (key, rest) ← key? rest
    let (_, rest) ← char? ']' rest
    ending (.header key) rest
  | cs =>
    match endLine? cs with
    | some rest => some (.blank, rest)
    | none => do
      let ((key, value), rest) ← field? (value? depthLimit) cs
      ending (.entry key value) rest

/-- The expressions of a text, in at most `n` steps; `read` holds those that were read in reverse
    order. -/
def expressionsWithin : Nat → List Expression → List Char → Option (List Expression)
  | 0, _, _ => none
  | n + 1, read, cs =>
    match skipBlanks cs with
    | [] => some read.reverse
    | cs =>
      match expression? cs with
      | none => none
      | some (e, rest) => expressionsWithin n (e :: read) rest

/-- Drop a byte order mark at the beginning of a text. -/
def skipMark : List Char → List Char
  | '\uFEFF' :: rest => rest
  | cs => cs

/-- The expressions of a text. Every step but the last reads a character, so the length of the text
    bounds the steps. -/
def expressions? (text : String) : Option (List Expression) :=
  let cs := skipMark text.toList
  expressionsWithin (cs.length + 1) [] cs

/-- The table that expressions have built and the path of the header that is open. -/
structure Document where
  root : Entries := []
  header : List String := []
  deriving Repr

/-- Add an expression to a document. -/
def Document.add? (document : Document) : Expression → Option Document
  | .blank => some document
  | .header key =>
    (openTable? key.path key.name .headed document.root).map fun root =>
      { root, header := key.path ++ [key.name] }
  | .element key =>
    (openElement? key.path key.name .headed document.root).map fun root =>
      { root, header := key.path ++ [key.name] }
  | .entry key value =>
    (updateAt? .implied (insert? key.path key.name value) document.header .headed
      document.root).map fun root => { document with root }

/-- The table of a document, if it is well formed. -/
def parse? (text : String) : Option Entries := do
  let expressions ← expressions? text
  let document ← expressions.foldlM Document.add? {}
  return document.root

end Toml

end BufferFormat
