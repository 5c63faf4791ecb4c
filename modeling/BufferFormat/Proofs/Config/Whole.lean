import BufferFormat.Config.Layer

/-!
# Two ways to read a document

A document can be read as settings that are applied to the defaults, or as a
whole configuration that has the defaults where the document says nothing. Each
has its own rule for what is missing. Settings keep track of it and leave it to
the configuration that they are applied to, while a whole configuration has to
fill it in at once.

For a setting with a value of its own the two come to the same, whether its name
is missing, its value is of the wrong kind, or neither. The markers are the one
setting that is made of others, and they may also be given by position. What is
missing by name is nothing in particular for either way, but what is missing by
position is taken for the default by the one and for a mistake by the other. So
the two ways agree on every document but those whose markers are an array that
is too short, and on these the settings are refused whatever else they are.

## Main definitions

* `Toml.Value.isShort`: An array that does not have two elements.
* `Config.hasShortMarkers`: A document with such an array for its markers.
* `MarkerSettings.getD`: Markers in which what is not set has its default.

## Theorems

* `Config.valueOr?_eq`: A value or its default is what the setting comes to.
* `Config.markers?_eq_of_isShort_eq_false`: So it is for markers that are not too short.
* `Settings.map_applyTo_ofTable?`: The two ways agree on all other tables.
* `Settings.map_applyTo_parse?`: And so on the documents of such tables.
* `Config.layered_eq_whole`: When they agree on a document, and what a file comes to.
-/

namespace BufferFormat

/-- An array that does not have two elements. -/
def Toml.Value.isShort : Toml.Value → Bool
  | .array items => items.length < 2
  | _ => false

/-- Markers in which what is not set has its default. -/
def MarkerSettings.getD (settings : MarkerSettings) (markers : Markers) : Markers where
  reformatted := settings.reformatted.getD markers.reformatted
  unchanged := settings.unchanged.getD markers.unchanged

namespace Config

/-- A value or its default is what the setting comes to. -/
theorem valueOr?_eq {α : Type} (read : Toml.Value → Option α) (entries : Toml.Entries)
    (name : String) (default : α) :
    valueOr? read entries name default =
      (Settings.setting? read entries name).map (·.getD default) := by
  rw [valueOr?, Settings.setting?]
  cases entries.lookup name with
  | none => rfl
  | some value => cases hread : read value <;> simp only [hread, Option.map_none, Option.map_some,
      Option.getD_some]

/-- Markers that are not too short come to what their settings come to. -/
theorem markers?_eq_of_isShort_eq_false {value : Toml.Value} (h : value.isShort = false) :
    markers? value = (Settings.markers? value).map (·.getD {}) := by
  cases value with
  | table origin entries =>
      rw [markers?, Settings.markers?]
      simp only [Option.bind_eq_bind, Option.pure_def, Option.map_bind, Function.comp_def,
        Option.map_some]
      rfl
  | array items =>
      match items with
      | [] => cases h
      | [_] => cases h
      | first :: second :: rest =>
          rw [markers?, Settings.markers?]
          simp only [Option.bind_eq_bind, Option.pure_def, Option.map_bind, Function.comp_def,
            Option.map_some]
          rfl
  | string _ => rfl
  | integer _ => rfl
  | float _ => rfl
  | boolean _ => rfl
  | datetime _ => rfl
  | tables _ => rfl

/-- Whether the markers of a document are an array that is too short. -/
def hasShortMarkers (text : String) : Bool :=
  (Toml.parse? text).any fun entries => (entries.lookup "markers").any Toml.Value.isShort

theorem valueOr?_markers?_eq {entries : Toml.Entries}
    (h : (entries.lookup "markers").any Toml.Value.isShort = false) :
    valueOr? markers? entries "markers" {} =
      (Settings.setting? Settings.markers? entries "markers").map fun settings =>
        (settings.getD {}).getD {} := by
  rw [valueOr?, Settings.setting?]
  cases hvalue : entries.lookup "markers" with
  | none => rfl
  | some value =>
      rw [hvalue] at h
      simp only [markers?_eq_of_isShort_eq_false h, Option.map_map, Function.comp_def,
        Option.getD_some]

end Config

/-- Markers that are too short are no setting. -/
theorem Settings.setting?_markers?_eq_none {entries : Toml.Entries}
    (h : (entries.lookup "markers").any Toml.Value.isShort = true) :
    setting? markers? entries "markers" = none := by
  cases hvalue : entries.lookup "markers" with
  | none => rw [hvalue] at h; cases h
  | some value =>
      rw [hvalue] at h
      match value with
      | .array [] => rw [setting?, hvalue]; rfl
      | .array [_] => rw [setting?, hvalue]; rfl

/-- The settings of a table, applied to the defaults, are the whole configuration that it describes,
    unless its markers are too short. -/
theorem Settings.map_applyTo_ofTable? (entries : Toml.Entries) :
    (ofTable? entries).map (·.applyTo {}) =
      if (entries.lookup "markers").any Toml.Value.isShort then none
      else Config.ofTable? entries := by
  cases hshort : (entries.lookup "markers").any Toml.Value.isShort with
  | true =>
      -- The markers are read last, so every setting before them has to be passed.
      simp only [ofTable?, setting?_markers?_eq_none hshort, Option.bind_eq_bind, Option.bind_none,
        Option.bind_fun_none, Option.map_none, if_true]
  | false =>
      simp only [Config.ofTable?, Config.valueOr?_markers?_eq hshort]
      simp only [ofTable?, Config.valueOr?_eq, Option.bind_eq_bind, Option.pure_def,
        Option.map_bind, Option.bind_map, Function.comp_def, Option.map_some, Bool.false_eq_true,
        if_false, applyTo, MarkerSettings.getD, Option.orElse_eq_orElse, Option.orElse_eq_or,
        Option.or_none]

/-- A document is read by its settings as it is read at once, unless its markers are too short. -/
theorem Settings.map_applyTo_parse? (text : String) :
    (parse? text).map (·.applyTo {}) =
      if Config.hasShortMarkers text then none else Config.parse? text := by
  rw [parse?, Config.parse?, Config.hasShortMarkers]
  cases Toml.parse? text with
  | none => rfl
  | some entries => exact Settings.map_applyTo_ofTable? entries

/-- The two ways to read a document agree, unless its markers are an array that is too short: then
    the settings are refused, and the whole configuration is not if everything else can be read.
    A file is read by its settings, so what it comes to can be told from its text. -/
theorem Config.layered_eq_whole (w : World) (path : Path) (text : String) :
    (Settings.parse? text).map (·.applyTo {}) =
        (if hasShortMarkers text then none else Config.parse? text) ∧
      ((Settings.parse? text).map (·.applyTo {}) = Config.parse? text ↔
        ¬(hasShortMarkers text = true ∧ (Config.parse? text).isSome = true)) ∧
      ofFile w path =
        w.readText path >>= fun text =>
          (if hasShortMarkers text then none else Config.parse? text).elim
            (.error .badDocument) .ok := by
  refine ⟨Settings.map_applyTo_parse? text, ?_, ?_⟩
  · rw [Settings.map_applyTo_parse?]
    cases hasShortMarkers text with
    | false => exact iff_of_true rfl fun hshort => Bool.false_ne_true hshort.1
    | true =>
        rw [if_pos rfl, eq_comm, ← Option.isNone_iff_eq_none, ← Option.isSome_eq_false_iff,
          eq_self, true_and, Bool.not_eq_true]
  · rw [ofFile, Settings.read]
    cases w.readText path with
    | error fault => rfl
    | ok text =>
        simp only [bind, Except.bind, ← Settings.map_applyTo_parse?]
        cases Settings.parse? text <;> rfl

/-- A document whose markers are an empty array. -/
theorem Config.layered_ne_whole_empty :
    Settings.parse? "markers = []" = none ∧ Config.parse? "markers = []" = some {} := by
  constructor
  · decide +kernel
  · decide +kernel

end BufferFormat
