import BufferFormat.Toml.Value

/-!
# Tables

How entries, headers and dotted keys build up the tables of a document. A table may be described
in several places, but never twice by the same means: what a header describes cannot be extended by
dotted keys, what dotted keys describe cannot be given a header, and a value between braces cannot
be extended at all.

## Main definitions

* `Toml.updateAt?`: Change the table at the end of a path.
* `Toml.insert?`: Add an entry below a table.
* `Toml.openTable?`, `Toml.openElement?`: Begin a table or a new element of repeated tables.
-/

namespace BufferFormat

namespace Toml

/-- A change of a table, which may be refused. -/
abbrev Update := Origin → Entries → Option Entries

/-- The entries with the value of a key replaced. -/
def replace (entries : Entries) (key : String) (value : Value) : Entries :=
  entries.map fun (k, v) => if k == key then (k, value) else (k, v)

/-- Whether a path of this kind may pass through a table. Dotted keys pass only through tables that
    no header describes. -/
def mayEnter (step : Origin) (origin : Origin) : Bool :=
  match step, origin with
  | _, .inline => false
  | .dotted, .headed => false
  | _, _ => true

/-- Change the table at the end of a path. Tables that are missing on the way come to be by `step`,
    which tells headers from dotted keys; of repeated tables the last is meant. -/
def updateAt? (step : Origin) (change : Update) : List String → Update
  | [], origin, entries => change origin entries
  | key :: path, _, entries =>
    match entries.lookup key with
    | none =>
      (updateAt? step change path step []).map fun below => entries ++ [(key, .table step below)]
    | some (.table origin below) =>
      if mayEnter step origin then
        (updateAt? step change path origin below).map fun below =>
          replace entries key (.table origin below)
      else none
    | some (.tables elements) =>
      match elements.getLast? with
      | none => none
      | some below =>
        (updateAt? step change path .headed below).map fun below =>
          replace entries key (.tables (elements.dropLast ++ [below]))
    | some _ => none

/-- Add an entry to a table. A dotted key adds only to tables that dotted keys made, and such
    tables get entries from dotted keys only. -/
def insertHere (isDotted : Bool) (key : String) (value : Value) : Update := fun origin entries =>
  if (origin == .dotted) != isDotted then none
  else if (entries.lookup key).isSome then none
  else some (entries ++ [(key, value)])

/-- Add an entry below a table, at a path of dotted keys. -/
def insert? (path : List String) (key : String) (value : Value) : Update :=
  updateAt? .dotted (insertHere (!path.isEmpty) key value) path

/-- Begin a table that has a header. A table that other headers named in passing is taken up. -/
def openTable? (path : List String) (key : String) : Update :=
  updateAt? .implied
    (fun _ entries =>
      match entries.lookup key with
      | none => some (entries ++ [(key, .table .headed [])])
      | some (.table .implied below) => some (replace entries key (.table .headed below))
      | some _ => none)
    path

/-- Begin a new element of repeated tables. -/
def openElement? (path : List String) (key : String) : Update :=
  updateAt? .implied
    (fun _ entries =>
      match entries.lookup key with
      | none => some (entries ++ [(key, .tables [[]])])
      | some (.tables elements) => some (replace entries key (.tables (elements ++ [[]])))
      | some _ => none)
    path

end Toml

end BufferFormat
