import BufferFormat.Environment
import BufferFormat.Platform
import BufferFormat.Text.Split

/-!
# Locales

The formatter refuses to run without a UTF-8 locale, and sessions started from a desktop often
have none. The formatter's environment is the process environment, with a locale added when the
process has none of its own.

## Main definitions

* `Locale.variableNames`: The variables that decide the locale, by precedence.
* `Locale.probe`: The locale that some variables set.
* `Locale.provide`: The environment for the formatter.
-/

namespace BufferFormat

namespace Locale

/-- The variables that decide the locale, the strongest first. -/
def variableNames : List String := ["LC_ALL", "LC_CTYPE", "LANG", "LANGUAGE"]

/-- Locales that do not provide UTF-8. -/
def isPlain (locale : String) : Bool :=
  locale == "" || locale == "C" || locale == "POSIX"

/-- The locale that the first non-empty variable sets, unless it is a plain one. A value may be a
    list, of which the first element counts. -/
def probe (lookup : String → Option String) : Option String :=
  match variableNames.findSome? fun name => (lookup name).filter (!·.isEmpty) with
  | none => none
  | some value =>
    let first := String.ofList ((Text.splitAt ':' value.toList).headD [])
    if isPlain first then none else some first

/-- The environment for a formatter: `base`, with the platform's locale added when one is needed
    and `locale` found none. -/
def provide (base : Environment) (needed : Bool) (platform : Platform)
    (locale : Option String) : Environment :=
  if !needed || locale.isSome then base
  else
    match platform.localeOverride with
    | some (name, value) => base.insert name value
    | none => base

/-- The locale of an environment. -/
def ofEnvironment (env : Environment) : Option String :=
  probe env.get?

end Locale

end BufferFormat
