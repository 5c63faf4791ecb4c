import BufferFormat.Locale
import Mathlib.Data.List.Basic
import Mathlib.Data.List.TakeWhile

/-!
# The locale that the formatter gets

A process without a usable locale puts one into the formatter's environment, by setting a single
variable. That variable is not the strongest one. Where a stronger variable holds a plain locale,
it stays in force, and the formatter has no usable locale either.

The module says exactly when the formatter gets a usable locale: where the process has one itself,
or where no variable stands above the one that is set. `ofEnvironment_provide_plainAll` is the case
in which it gets none.

Both environments are searched in the same order, so the argument splits that order at the variable
that is set. What is found before it was found in the process environment as well. What would be
found after it does not count any more.

## Main definitions

* `Locale.inForce?`: The value that decides the locale of an environment.
* `Locale.ofValue?`: The locale that a value sets.
* `Locale.strongerThan`: The variables that win over another one.

## Theorems

* `Environment.get?_insert`: Setting a variable changes that variable and no other one.
* `Locale.inForce?_insert`: Which value decides once a variable is set.
* `Locale.ofEnvironment_provide`: The locale that the formatter gets.
* `Locale.isSome_ofEnvironment_provide_iff`: When it gets one.
* `Locale.ofEnvironment_provide_plainAll`: It gets none below a plain `LC_ALL`.
-/

namespace BufferFormat

namespace Environment

/-- Putting a pair in its place changes what is found under its name and nothing else. -/
theorem lookup_insertEntry (name value other : String) (entries : List (String × String)) :
    (insertEntry name value entries).lookup other =
      if other = name then some value else entries.lookup other := by
  induction entries with
  | nil =>
      by_cases h : other = name
      · simp only [insertEntry, List.lookup_cons, if_pos h, beq_iff_eq.mpr h]
      · simp only [insertEntry, List.lookup_cons, if_neg h, beq_eq_false_iff_ne.mpr h]
  | cons entry entries ih =>
      rcases entry with ⟨n, v⟩
      rw [insertEntry]
      by_cases hn : n = name
      · -- The pair takes the place of the one of the same name.
        rw [if_pos (beq_iff_eq.mpr hn), List.lookup_cons, List.lookup_cons, hn]
        by_cases h : other = name
        · simp only [if_pos h, beq_iff_eq.mpr h]
        · simp only [if_neg h, beq_eq_false_iff_ne.mpr h]
      · rw [if_neg (by rwa [beq_iff_eq])]
        by_cases hlt : name < n
        · rw [if_pos hlt, List.lookup_cons]
          by_cases h : other = name
          · simp only [if_pos h, beq_iff_eq.mpr h]
          · simp only [if_neg h, beq_eq_false_iff_ne.mpr h]
        · rw [if_neg hlt, List.lookup_cons, List.lookup_cons, ih]
          by_cases ho : other = n
          · have h : other ≠ name := fun h => hn (ho.symm.trans h)
            simp only [beq_iff_eq.mpr ho, if_neg h]
          · simp only [beq_eq_false_iff_ne.mpr ho]

/-- A variable that is set has its new value, and every other one has its old value. -/
theorem get?_insert (env : Environment) (name value other : String) :
    (env.insert name value).get? other = if other = name then some value else env.get? other :=
  lookup_insertEntry name value other env.entries

end Environment

namespace Locale

/-- The value of a variable, unless it is empty. -/
def value? (env : Environment) (name : String) : Option String :=
  (env.get? name).filter (!·.isEmpty)

/-- The value that decides the locale of an environment. -/
def inForce? (env : Environment) : Option String :=
  variableNames.findSome? (value? env)

/-- The locale that a value sets: its first element, unless that is a plain one. -/
def ofValue? (value : String) : Option String :=
  let first := String.ofList ((Text.splitAt ':' value.toList).headD [])
  if isPlain first then none else some first

/-- The variables that win over another one. -/
def strongerThan (name : String) : List String :=
  variableNames.takeWhile (· != name)

/-- The locale of an environment is that of the value in force. -/
theorem ofEnvironment_eq (env : Environment) :
    ofEnvironment env = (inForce? env).bind ofValue? := by
  change _ = (variableNames.findSome? fun name => (env.get? name).filter (!·.isEmpty)).bind ofValue?
  rw [ofEnvironment, probe]
  cases variableNames.findSome? fun name => (env.get? name).filter (!·.isEmpty) with
  | none => rfl
  | some value => rfl

/-- A variable has no value that counts exactly if it is unset or empty. -/
theorem value?_eq_none_iff (env : Environment) (name : String) :
    value? env name = none ↔ ∀ value ∈ env.get? name, value.isEmpty = true := by
  rw [value?, Option.filter_eq_none_iff]
  simp only [Option.mem_def, Bool.not_eq_true', Bool.not_eq_false]

/-- Only the variable that is set has a new value. -/
theorem value?_insert_of_ne (env : Environment) {name other : String} (value : String)
    (h : other ≠ name) : value? (env.insert name value) other = value? env other := by
  rw [value?, value?, Environment.get?_insert, if_neg h]

/-- Once a variable is set, a stronger variable with a value stays in force. Without one, the
    variable that was set is. -/
theorem inForce?_insert (env : Environment) (name value : String) (weaker : List String)
    (hnames : variableNames = strongerThan name ++ name :: weaker)
    (hvalue : value.isEmpty = false) :
    inForce? (env.insert name value) =
      ((strongerThan name).findSome? (value? env)).or (some value) := by
  have hset : value? (env.insert name value) name = some value := by
    rw [value?, Environment.get?_insert, if_pos rfl, Option.filter_some, hvalue]
    rfl
  have hkept : (strongerThan name).findSome? (value? (env.insert name value)) =
      (strongerThan name).findSome? (value? env) := by
    rw [← List.head?_filterMap, ← List.head?_filterMap]
    refine congrArg List.head? (List.filterMap_congr fun other hother => ?_)
    have hne := List.mem_takeWhile_imp (p := (· != name)) hother
    exact value?_insert_of_ne env value (bne_iff_ne.mp hne)
  rw [inForce?, hnames, List.findSome?_append, hkept, List.findSome?_cons, hset]

/-- What is in force was in force before a variable was set, if it is stronger than that one. -/
theorem inForce?_of_stronger (env : Environment) (name value : String) (weaker : List String)
    (hnames : variableNames = strongerThan name ++ name :: weaker)
    (h : (strongerThan name).findSome? (value? env) = some value) :
    inForce? env = some value := by
  rw [inForce?, hnames, List.findSome?_append, h, Option.some_or]

/-- The variable that a platform sets is one of those that decide the locale, and its value is a
    locale. -/
theorem localeOverride_spec {platform : Platform} {name value : String}
    (h : platform.localeOverride = some (name, value)) :
    (∃ weaker, variableNames = strongerThan name ++ name :: weaker) ∧
      value.isEmpty = false ∧ ofValue? value = some value := by
  cases platform with
  | windows => cases h
  | macOs =>
      cases h
      exact ⟨⟨["LANG", "LANGUAGE"], by decide⟩, by decide, by rfl⟩
  | unix =>
      cases h
      exact ⟨⟨["LANGUAGE"], by decide⟩, by decide, by rfl⟩

/-- The locale that the formatter gets is the one of the process. Where the process has none, it is
    the one of the platform, unless a stronger variable has a value. -/
theorem ofEnvironment_provide (base : Environment) (platform : Platform) :
    ofEnvironment (provide base true platform (ofEnvironment base)) =
      (ofEnvironment base).or
        ((platform.localeOverride.filter fun o =>
          ((strongerThan o.1).findSome? (value? base)).isNone).map (·.2)) := by
  cases hbase : ofEnvironment base with
  | some locale => exact hbase
  | none =>
      cases hoverride : platform.localeOverride with
      | none =>
          have hsame : provide base true platform none = base := by
            rw [provide, hoverride]
            rfl
          rw [hsame, hbase]
          rfl
      | some override =>
          rcases override with ⟨name, value⟩
          rcases localeOverride_spec hoverride with ⟨⟨weaker, hnames⟩, hvalue, hlocale⟩
          have hset : provide base true platform none = base.insert name value := by
            rw [provide, hoverride]
            rfl
          rw [hset, ofEnvironment_eq, inForce?_insert base name value weaker hnames hvalue]
          cases hstronger : (strongerThan name).findSome? (value? base) with
          | none => simp only [Option.none_or, Option.bind_some, hlocale, Option.filter_some,
              hstronger, Option.isNone_none, if_true, Option.map_some]
          | some found =>
              -- The stronger value was in force before, and set no locale then.
              have hforce := inForce?_of_stronger base name found weaker hnames hstronger
              rw [ofEnvironment_eq, hforce] at hbase
              simp only [Option.some_or, hbase, Option.filter_some, hstronger,
                Option.isNone_some, Bool.false_eq_true, if_false, Option.map_none, Option.none_or]

/-- The formatter gets a usable locale exactly if the process has one, or if its platform sets a
    variable above which all others are unset or empty. -/
theorem isSome_ofEnvironment_provide_iff (base : Environment) (platform : Platform) :
    (ofEnvironment (provide base true platform (ofEnvironment base))).isSome = true ↔
      (ofEnvironment base).isSome = true ∨
        ∃ name value, platform.localeOverride = some (name, value) ∧
          ∀ stronger ∈ strongerThan name, ∀ v ∈ base.get? stronger, v.isEmpty = true := by
  rw [ofEnvironment_provide, Option.isSome_or, Bool.or_eq_true]
  refine or_congr Iff.rfl ?_
  cases platform.localeOverride with
  | none => simp only [Option.filter_none, Option.map_none, Option.isSome_none, reduceCtorEq,
      false_and, exists_false]
  | some override =>
      rcases override with ⟨name, value⟩
      have hunset : ((strongerThan name).findSome? (value? base)).isNone = true ↔
          ∀ stronger ∈ strongerThan name, ∀ v ∈ base.get? stronger, v.isEmpty = true := by
        simp only [Option.isNone_iff_eq_none, List.findSome?_eq_none_iff, value?_eq_none_iff]
      rw [Option.isSome_map, Option.filter_some]
      constructor
      · intro h
        split at h
        · rename_i hnone
          exact ⟨name, value, rfl, hunset.mp hnone⟩
        · cases h
      · rintro ⟨_, _, ⟨⟩, h⟩
        rw [if_pos (hunset.mpr h)]
        rfl

/-- Below a plain `LC_ALL` the variable that is set has no effect, and the formatter gets no usable
    locale. -/
theorem ofEnvironment_provide_plainAll :
    ofEnvironment (provide ⟨[("LC_ALL", "C")]⟩ true .unix
        (ofEnvironment ⟨[("LC_ALL", "C")]⟩)) = none ∧
      ofEnvironment (provide ⟨[("LC_ALL", "C")]⟩ true .macOs
        (ofEnvironment ⟨[("LC_ALL", "C")]⟩)) = none := by
  exact ⟨rfl, rfl⟩

end Locale

end BufferFormat
