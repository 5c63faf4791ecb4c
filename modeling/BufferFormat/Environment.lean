/-!
# Environments

The variables of a process, in ascending order of their names.

## Main definitions

* `Environment`: Names with values.
* `Environment.get?`, `Environment.insert`: One variable.
* `Environment.getIgnoringCase?`: A variable by a name in any letter case.
-/

namespace BufferFormat

/-- The variables of a process. -/
structure Environment where
  /-- Names with values, in ascending order of the names. -/
  entries : List (String × String)
  deriving DecidableEq, Repr

namespace Environment

/-- No variables. -/
def empty : Environment := ⟨[]⟩

/-- The value of a variable. -/
def get? (env : Environment) (name : String) : Option String :=
  env.entries.lookup name

/-- Put a pair in its place, over a pair of the same name. -/
def insertEntry (name value : String) : List (String × String) → List (String × String)
  | [] => [(name, value)]
  | (n, v) :: rest =>
    if n == name then (name, value) :: rest
    else if name < n then (name, value) :: (n, v) :: rest
    else (n, v) :: insertEntry name value rest

/-- Set a variable. -/
def insert (env : Environment) (name value : String) : Environment :=
  ⟨insertEntry name value env.entries⟩

/-- The environment of some pairs; of two pairs with one name the later counts. -/
def ofList (pairs : List (String × String)) : Environment :=
  pairs.foldl (fun env pair => env.insert pair.1 pair.2) empty

/-- Whether two names differ in the case of ASCII letters only. -/
def sameIgnoringCase (m n : String) : Bool :=
  m.toList.map Char.toLower == n.toList.map Char.toLower

/-- The value of the first variable whose name is `name` up to case. -/
def getIgnoringCase? (env : Environment) (name : String) : Option String :=
  (env.entries.find? fun entry => sameIgnoringCase entry.1 name).map (·.2)

end Environment

end BufferFormat
