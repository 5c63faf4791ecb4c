import BufferFormat.CommandLine.Basic

/-!
# Reading a command line

The tokens are read one after the other. A value that is attached to its option is taken at once;
one that stands alone, like the files to format, is only taken when the next option or the end is
reached, so that an unknown option is noticed before a bad value in front of it.

## Main definitions

* `Token`: What the spelling of a token makes of it.
* `Reading`: The state between two tokens.
* `Reading.step`: Reading one token.
* `CommandLine.parse`: Reading a whole command line.
-/

namespace BufferFormat

/-- Why reading stopped without a command line. -/
inductive Stop where
  /-- The user asked for a text. -/
  | asked (query : Query)
  | misused (error : UsageError)
  deriving DecidableEq, Repr

/-- What the spelling of a token makes of it. -/
inductive Token where
  /-- Two dashes: only files follow. -/
  | separator
  /-- A name after two dashes, with what follows an equals sign. -/
  | long (name : String) (value : Option String)
  /-- Letters after one dash. -/
  | letters (cs : List Char)
  | plain (text : String)
  deriving DecidableEq, Repr

/-- The token of a spelling. A single dash is a plain token. -/
def Token.ofString (text : String) : Token :=
  match text.toList with
  | ['-', '-'] => .separator
  | '-' :: '-' :: cs =>
    let name := String.ofList (cs.takeWhile (· != '='))
    match cs.dropWhile (· != '=') with
    | [] => .long name none
    | _ :: value => .long name (some (String.ofList value))
  | '-' :: c :: cs => .letters (c :: cs)
  | _ => .plain text

/-- What was read and not taken yet. -/
inductive Pending where
  | nothing
  /-- Files to format. -/
  | inputs (texts : List String)
  /-- A setting, and its value once that was read. -/
  | setting (s : Setting) (value : Option String)
  deriving DecidableEq, Repr

/-- The state between two tokens. -/
structure Reading where
  line : CommandLine := {}
  pending : Pending := .nothing
  /-- Whether only files follow. -/
  onlyInputs : Bool := false
  deriving DecidableEq, Repr

namespace Reading

/-- An unusable command line as a reason to stop. -/
def checked {α : Type} (result : Except UsageError α) : Except Stop α :=
  result.mapError Stop.misused

/-- Take what is pending. -/
def settle (r : Reading) : Except Stop Reading :=
  match r.pending with
  | .nothing => .ok r
  | .inputs texts => do
    let line ← checked (r.line.addInputs texts)
    return { r with line, pending := .nothing }
  | .setting s none => .error (.misused (.missing (.named (.setting s))))
  | .setting s (some value) => do
    let line ← checked (r.line.give s value)
    return { r with line, pending := .nothing }

/-- Read a setting with a value attached to it. -/
def attach (r : Reading) (s : Setting) (value : String) : Except Stop Reading := do
  let r ← r.settle
  let line ← checked (r.line.give s value)
  return { r with line }

/-- Read a setting whose value is the next token. -/
def await (r : Reading) (s : Setting) : Except Stop Reading := do
  let r ← r.settle
  return { r with pending := .setting s none }

/-- Read a flag. -/
def mark (r : Reading) (f : Flag) : Except Stop Reading := do
  let r ← r.settle
  let line ← checked (r.line.turnOn f)
  return { r with line }

/-- Read a query. -/
def answer (r : Reading) (q : Query) : Except Stop Reading := do
  let _ ← r.settle
  throw (.asked q)

/-- Read a file to format. -/
def addInput (r : Reading) (text : String) : Except Stop Reading :=
  match r.pending with
  | .inputs texts => .ok { r with pending := .inputs (texts ++ [text]) }
  | _ => do
    let r ← r.settle
    return { r with pending := .inputs [text] }

/-- Read a token that is neither an option nor the separator: the value of a setting that has none
    yet, or a file to format. -/
def plain (r : Reading) (text : String) : Except Stop Reading :=
  match r.pending with
  | .setting s none => .ok { r with pending := .setting s (some text) }
  | _ => r.addInput text

/-- Read an option by its name. -/
def long (r : Reading) (name : String) (value : Option String) : Except Stop Reading :=
  match Named.ofLong? name, value with
  | none, _ => .error (.misused (.unknown ("--" ++ name)))
  | some (.setting s), some value => r.attach s value
  | some (.setting s), none => r.await s
  | some n, some value => .error (.misused (.unneeded n value))
  | some (.flag f), none => r.mark f
  | some (.query q), none => r.answer q

/-- Read options by their letters. What follows the letter of a setting is its value, with or
    without an equals sign. -/
def letters (r : Reading) : List Char → Except Stop Reading
  | [] => .ok r
  | c :: cs =>
    match Named.ofShort? c with
    | none => .error (.misused (.unknown (String.ofList ['-', c])))
    | some (.setting s) =>
      match cs with
      | [] => r.await s
      | '=' :: value => r.attach s (String.ofList value)
      | value => r.attach s (String.ofList value)
    | some (.flag f) => do
      let r ← r.mark f
      r.letters cs
    | some (.query q) => r.answer q

/-- Read one token. -/
def step (r : Reading) (text : String) : Except Stop Reading :=
  if r.onlyInputs then r.addInput text
  else
    match Token.ofString text with
    | .separator => .ok { r with onlyInputs := true }
    | .long name value => r.long name value
    | .letters cs => r.letters cs
    | .plain text => r.plain text

end Reading

namespace CommandLine

/-- Read the tokens after the name of the program. -/
def ofTokens (tokens : List String) : Except Stop CommandLine := do
  let r ← tokens.foldlM Reading.step {}
  let r ← r.settle
  return r.line

/-- Read a whole command line. The first token is the name of the program. -/
def parse (argv : List String) : Except Stop CommandLine :=
  ofTokens argv.tail

end CommandLine

end BufferFormat
