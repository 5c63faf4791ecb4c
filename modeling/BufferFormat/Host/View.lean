import BufferFormat.Path

/-!
# What a host shows

A run reads three things from the host it works for: the buffer, the file behind it, and the
folders that are open around it.

## Main definitions

* `Buffer`: Text, and the encoding that the host believes it has.
* `View`: The buffer with its surroundings.
-/

namespace BufferFormat

/-- A buffer as its host sees it. -/
structure Buffer where
  text : String
  /-- The encoding that the host believes the buffer to have, if it knows. -/
  encoding : Option String
  deriving DecidableEq, Repr

/-- What a run reads from a host. -/
structure View where
  buffer : Buffer
  /-- The file behind the buffer. -/
  file : Option Path
  /-- The open folders. -/
  folders : List Path
  deriving DecidableEq, Repr

end BufferFormat
