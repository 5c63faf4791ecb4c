import BufferFormat.Text.Split

/-!
# Paths

A path is kept exactly as it was spelled, because messages show it that way. Its components are
what the spelling means: repeated separators do not count, and neither does a dot, except at the
very beginning. Two spellings are the same path when their components agree; a double dot is a
component like any other and cancels nothing.

## Main definitions

* `Path`: A spelled path.
* `Path.Component`, `Path.components`: What a spelling means.
* `Path.same`: Equality of components.
* `Path.parent?`, `Path.ancestors`: Going up by dropping the last component.
* `Path.fileName?`, `Path.extension?`: The last name and what follows its last dot.
* `Path.join`: A path inside another one.
* `Path.absoluteFrom`: A path with the working directory put in front.
-/

namespace BufferFormat

/-- A path as it was spelled. -/
structure Path where
  text : String
  deriving DecidableEq, Repr

namespace Path

/-- A component of a path. -/
inductive Component where
  | root
  /-- A dot at the beginning of a relative path. -/
  | here
  | up
  | name (n : String)
  deriving DecidableEq, Repr

/-- How a spelling begins. -/
inductive Head where
  | root
  | here
  | none
  deriving DecidableEq, Repr

/-- How a spelling begins, and the rest of it. -/
def split (cs : List Char) : Head × List Char :=
  match cs with
  | '/' :: rest => (.root, rest)
  | ['.'] => (.here, [])
  | '.' :: '/' :: rest => (.here, '/' :: rest)
  | cs => (.none, cs)

/-- The text of a beginning. -/
def Head.chars : Head → List Char
  | .root => ['/']
  | .here => ['.']
  | .none => []

/-- The components of a beginning. -/
def Head.components : Head → List Component
  | .root => [.root]
  | .here => [.here]
  | .none => []

/-- Pieces between separators that are no component. -/
def isVoid (piece : List Char) : Bool :=
  piece.isEmpty || piece == ['.']

/-- The component of a piece between separators. -/
def componentOf (piece : List Char) : Component :=
  if piece == ['.', '.'] then .up else .name (String.ofList piece)

/-- The components of a path. -/
def components (p : Path) : List Component :=
  (split p.text.toList).1.components ++
    ((Text.splitAt '/' (split p.text.toList).2).filter (!isVoid ·)).map componentOf

/-- Whether two spellings have the same components. -/
def same (p q : Path) : Bool :=
  p.components == q.components

/-- Whether a path starts at the root. -/
def isAbsolute (p : Path) : Bool :=
  p.text.toList.head? == some '/'

/-- Drop what is no component from the end of a list of pieces. -/
def dropVoidEnd (pieces : List (List Char)) : List (List Char) :=
  (pieces.reverse.dropWhile isVoid).reverse

/-- The path without its last component. The root and the empty path have no parent; the parent
    of a single name is the empty path. -/
def parent? (p : Path) : Option Path :=
  let (head, body) := split p.text.toList
  match (dropVoidEnd (Text.splitAt '/' body)).reverse with
  | [] =>
    match head with
    | .here => some ⟨""⟩
    | _ => none
  | _ :: before =>
    some ⟨String.ofList (head.chars ++ Text.joinWith '/' (dropVoidEnd before.reverse))⟩

/-- Following parents for at most `n` steps. -/
def ancestorsWithin : Nat → Path → List Path
  | 0, p => [p]
  | n + 1, p =>
    match p.parent? with
    | none => [p]
    | some q => p :: ancestorsWithin n q

/-- The path itself, its parent, and so on. There are fewer steps than characters. -/
def ancestors (p : Path) : List Path :=
  ancestorsWithin p.text.toList.length p

/-- The last component, if it is a name. -/
def fileName? (p : Path) : Option String :=
  match p.components.getLast? with
  | some (.name n) => some n
  | _ => none

/-- What follows the last dot of a name. A dot at the very beginning of a name separates
    nothing. -/
def extensionOfName? (name : List Char) : Option (List Char) :=
  match (Text.splitAt '.' name).reverse with
  | _ :: [] => none
  | [_, []] => none
  | last :: _ :: _ => some last
  | [] => none

/-- The extension of the last name of a path. -/
def extension? (p : Path) : Option String :=
  (p.fileName?.bind fun n => extensionOfName? n.toList).map String.ofList

/-- The path `q` as seen from inside `p`. An absolute `q` replaces `p`. -/
def join (p q : Path) : Path :=
  if q.isAbsolute || p.text.isEmpty then q
  else if p.text.toList.getLast? == some '/' then ⟨p.text ++ q.text⟩
  else ⟨p.text ++ "/" ++ q.text⟩

/-- The spelling of a component on its own. -/
def Component.path : Component → Path
  | .root => ⟨"/"⟩
  | .here => ⟨"."⟩
  | .up => ⟨".."⟩
  | .name n => ⟨n⟩

/-- The absolute form of a non-empty path: components only, behind the working directory `cwd`
    when the path is relative. Double dots stay, a separator at the end stays, and so does a
    beginning of exactly two separators. -/
def absoluteFrom (cwd p : Path) : Path :=
  let start : Path × List Component :=
    if p.isAbsolute then
      match p.text.toList with
      | '/' :: '/' :: '/' :: _ => (⟨""⟩, p.components)
      | '/' :: '/' :: _ => (⟨"//"⟩, p.components.drop 1)
      | _ => (⟨""⟩, p.components)
    else
      match p.components with
      | .here :: rest => (cwd, rest)
      | components => (cwd, components)
  let path := start.2.foldl (fun q c => q.join c.path) start.1
  if p.text.toList.getLast? == some '/' then path.join ⟨""⟩ else path

end Path

end BufferFormat
