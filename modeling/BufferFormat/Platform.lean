/-!
# Platforms

What differs between the systems that the formatter is started on.

## Main definitions

* `Platform`: The three kinds of system.
* `Platform.launchFlags`: Process flags for starting the formatter.
* `Platform.localeOverride`: The variable that provides a UTF-8 locale where there is none.
-/

namespace BufferFormat

/-- The kinds of system. The kind chooses what is done, not how paths are written, which is always
    as on Unix. -/
inductive Platform where
  | windows
  | macOs
  /-- Every other Unix-like system. -/
  | unix
  deriving DecidableEq, Repr

namespace Platform

/-- The platform of an operating system's name. -/
def ofOs : String → Platform
  | "windows" => .windows
  | "macos" | "ios" => .macOs
  | _ => .unix

/-- The flag that keeps a console window from opening. -/
def noWindow : Nat := 0x08000000

/-- Process flags for starting the formatter, where the system has any. -/
def launchFlags : Platform → Option Nat
  | .windows => some noWindow
  | .macOs | .unix => none

/-- The variable and value that provide a UTF-8 locale, where that is needed. -/
def localeOverride : Platform → Option (String × String)
  | .unix => some ("LANG", "en_US.UTF-8")
  | .macOs => some ("LC_CTYPE", "UTF-8")
  | .windows => none

end Platform

end BufferFormat
