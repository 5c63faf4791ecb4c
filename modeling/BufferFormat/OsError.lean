/-!
# Operating system errors

The reasons for which the operating system refuses to open, read, write or run a file, as far as
this library meets them, with the text and number under which they are reported.

## Main definitions

* `OsError`: The reasons.
* `OsError.message`: Their text.
-/

namespace BufferFormat

/-- Why the operating system refused. -/
inductive OsError where
  | notFound
  | badExecutable
  | permissionDenied
  | notDirectory
  | isDirectory
  | nameTooLong
  | tooManyLinks
  deriving DecidableEq, Repr

namespace OsError

/-- The number of an error. -/
def number : OsError → Nat
  | .notFound => 2
  | .badExecutable => 8
  | .permissionDenied => 13
  | .notDirectory => 20
  | .isDirectory => 21
  | .nameTooLong => 36
  | .tooManyLinks => 40

/-- What an error says. -/
def text : OsError → String
  | .notFound => "No such file or directory"
  | .badExecutable => "Exec format error"
  | .permissionDenied => "Permission denied"
  | .notDirectory => "Not a directory"
  | .isDirectory => "Is a directory"
  | .nameTooLong => "File name too long"
  | .tooManyLinks => "Too many levels of symbolic links"

/-- Text and number together. -/
def message (e : OsError) : String :=
  e.text ++ " (os error " ++ toString e.number ++ ")"

end OsError

end BufferFormat
