import BufferFormat.Config.Resolve
import BufferFormat.Proofs.FileSystem
import BufferFormat.Proofs.FileSystem.Evaluation

/-!
# The most specific setter wins

A configuration is put together by one pass over the files, in which each file overwrites what the
files before it said. What comes out can be said without the pass, one field at a time: the value is
the command line's if it has one, else that of the last file that sets the field, else the default.
No field depends on what becomes of another, and a file that cannot be used is as good as absent.

The executable is the one field for which not every file counts. It is searched for among the files
of the global layer only, which is why a file is kept together with its layer.

## Main definitions

* `LayeredSettings`: What a file sets, with the layer that the file belongs to.
* `Settings.Sets`, `Settings.Keyed`: What a name of a document sets, and all names of it.
* `ConfigFile.usable`: The files that can be used.
* `lastSet`: The value of the last file that sets a field.
* `CommandLine.usedLayers`: The files that a command line goes by.
* `CommandLine.mostSpecific`: The configuration in which every field has its most specific value.
* `CommandLine.layeredWorld`: A world with files of both layers, one of which cannot be used.

## Theorems

* `Settings.parse?_eq_some_iff`: A document sets each field by its own name.
* `Settings.read_eq_ok_iff`: A file can be used exactly if it is text and the text can be read.
* `lastSet_cons`, `lastSet_concat`: The last file that sets a field decides on it.
* `overwritten_cons`: Overwriting by a file and then by others is overwriting by all of them.
* `fst_discovered`: The files that are found overwrite the defaults in their order.
* `usable_of_error`: A file that cannot be used changes nothing.
* `resolve_mostSpecific`: The configuration that is resolved is the most specific one.
* `resolve_of_discover_eq_nil`: Without configuration files it is that of the command line.
-/

namespace BufferFormat

/-- What a file sets, with the layer that the file belongs to. -/
structure LayeredSettings where
  layer : Layer
  settings : Settings
  deriving DecidableEq, Repr

/-! ## What a document sets -/

namespace Settings

section Setting

variable {α : Type} {read : Toml.Value → Option α} {entries : Toml.Entries} {name : String}

/-- What a name sets: nothing where the document leaves it out, and else what is read of its
    value. -/
inductive Sets (read : Toml.Value → Option α) (entries : Toml.Entries) (name : String) :
    Option α → Prop where
  | missing (hmissing : entries.lookup name = none) : Sets read entries name none
  | given (value : Toml.Value) (a : α) (hgiven : entries.lookup name = some value)
      (hread : read value = some a) : Sets read entries name (some a)

/-- A setting can be read exactly if it is left out or has a value of the right kind. -/
theorem setting?_eq_some_iff (set : Option α) :
    setting? read entries name = some set ↔ Sets read entries name set := by
  unfold setting?
  constructor
  · intro h
    cases hlookup : entries.lookup name with
    | none =>
        rw [hlookup] at h
        cases h
        exact .missing hlookup
    | some value =>
        rw [hlookup] at h
        rcases Option.map_eq_some_iff.mp h with ⟨a, hread, rfl⟩
        exact .given value a hlookup hread
  · rintro (hmissing | ⟨value, a, hgiven, hread⟩)
    · rw [hmissing]
    · simp only [hgiven, hread, Option.map_some]

end Setting

/-- Settings that are those of a document, each by the name that it has there. -/
structure Keyed (entries : Toml.Entries) (settings : Settings) : Prop where
  command : Sets string? entries "command" settings.command
  lineLength : Sets word? entries "line_length" settings.lineLength
  fast : Sets boolean? entries "fast" settings.fast
  skipStringNormalization :
    Sets boolean? entries "skip_string_normalization" settings.skipStringNormalization
  includePattern : Sets string? entries "include" settings.includePattern
  excludePattern : Sets string? entries "exclude" settings.excludePattern
  py36 : Sets boolean? entries "py36" settings.py36
  defaultEncoding : Sets string? entries "default_encoding" settings.defaultEncoding
  debug : Sets boolean? entries "debug" settings.debug
  markers : ∃ markers, Sets markers? entries "markers" markers ∧
    settings.markers = markers.getD {}

/-- The entries of a document make settings exactly if each is the one of its name. -/
theorem ofTable?_eq_some_iff (entries : Toml.Entries) (settings : Settings) :
    ofTable? entries = some settings ↔ settings.Keyed entries := by
  simp only [ofTable?, bind, Option.bind_eq_some_iff, pure, setting?_eq_some_iff]
  constructor
  · rintro ⟨command, hcommand, lineLength, hlineLength, fast, hfast, skip, hskip, included,
      hincluded, excluded, hexcluded, py36, hpy36, encoding, hencoding, debug, hdebug, markers,
      hmarkers, hsettings⟩
    cases hsettings
    exact ⟨hcommand, hlineLength, hfast, hskip, hincluded, hexcluded, hpy36, hencoding, hdebug,
      markers, hmarkers, rfl⟩
  · rintro ⟨hcommand, hlineLength, hfast, hskip, hincluded, hexcluded, hpy36, hencoding, hdebug,
      markers, hmarkers, heq⟩
    refine ⟨_, hcommand, _, hlineLength, _, hfast, _, hskip, _, hincluded, _, hexcluded, _, hpy36,
      _, hencoding, _, hdebug, markers, hmarkers, ?_⟩
    rw [← heq]

/-- A text can be read exactly if it is a document whose entries make settings. -/
theorem parse?_eq_some_iff (text : String) (settings : Settings) :
    parse? text = some settings ↔
      ∃ entries, Toml.parse? text = some entries ∧ settings.Keyed entries := by
  simp only [parse?, Option.bind_eq_some_iff, ofTable?_eq_some_iff]

/-- The two markers of a table are set by their own names, each for itself. -/
theorem markers?_table_eq_some_iff (origin : Toml.Origin) (entries : Toml.Entries)
    (markers : MarkerSettings) :
    markers? (.table origin entries) = some markers ↔
      Sets string? entries "reformatted" markers.reformatted ∧
        Sets string? entries "unchanged" markers.unchanged := by
  simp only [markers?, bind, Option.bind_eq_some_iff, pure, setting?_eq_some_iff]
  constructor
  · rintro ⟨reformatted, hreformatted, unchanged, hunchanged, hmarkers⟩
    cases hmarkers
    exact ⟨hreformatted, hunchanged⟩
  · rintro ⟨hreformatted, hunchanged⟩
    exact ⟨_, hreformatted, _, hunchanged, rfl⟩

end Settings

/-! ## The files that can be used -/

/-- A file can be used exactly if it is text and the text can be read. -/
theorem Settings.read_eq_ok_iff (w : World) (path : Path) (settings : Settings) :
    Settings.read w path = .ok settings ↔
      ∃ text, w.readText path = .ok text ∧ Settings.parse? text = some settings := by
  cases htext : w.readText path with
  | error fault => simp only [Settings.read, htext, bind, Except.bind, reduceCtorEq, false_and,
      exists_false]
  | ok text =>
      cases hparse : Settings.parse? text with
      | none =>
          simp only [Settings.read, htext, bind, Except.bind, hparse, throw, throwThe,
            MonadExceptOf.throw, reduceCtorEq, Except.ok.injEq, exists_eq_left']
      | some read =>
          simp only [Settings.read, htext, bind, Except.bind, hparse, pure, Except.pure,
            Except.ok.injEq, exists_eq_left', Option.some.injEq]

/-- The files that can be used, in their order, with what they set. -/
def ConfigFile.usable (w : World) (files : List ConfigFile) : List LayeredSettings :=
  files.filterMap fun file =>
    match Settings.read w file.path with
    | .ok settings => some ⟨file.layer, settings⟩
    | .error _ => none

/-! ## The last file that sets a field -/

/-- The value of the last file that sets a field. -/
def lastSet {α : Type} (field : Settings → Option α) (layers : List LayeredSettings) : Option α :=
  (layers.filterMap fun l => field l.settings).getLast?

/-- Files of the global layer, whose choice of an executable counts. -/
def globalOnly (layers : List LayeredSettings) : List LayeredSettings :=
  layers.filter fun l => l.layer = .global

theorem lastSet_cons {α : Type} (field : Settings → Option α) (l : LayeredSettings)
    (layers : List LayeredSettings) :
    lastSet field (l :: layers) = (lastSet field layers).or (field l.settings) := by
  cases hfield : field l.settings with
  | none => simp only [lastSet, List.filterMap_cons, hfield, Option.or_none]
  | some value =>
      simp only [lastSet, List.filterMap_cons, hfield, List.getLast?_cons]
      cases (layers.filterMap fun l => field l.settings).getLast? <;> rfl

/-- A file behind all others decides on what it sets, and leaves the rest to them. -/
theorem lastSet_concat {α : Type} (field : Settings → Option α) (layers : List LayeredSettings)
    (l : LayeredSettings) :
    lastSet field (layers ++ [l]) = (field l.settings).or (lastSet field layers) := by
  induction layers with
  | nil => rw [List.nil_append, lastSet_cons, lastSet, List.filterMap_nil, List.getLast?_nil,
      Option.none_or, Option.or_none]
  | cons first layers ih => rw [List.cons_append, lastSet_cons, ih, lastSet_cons, Option.or_assoc]

theorem globalOnly_cons (l : LayeredSettings) (layers : List LayeredSettings) :
    globalOnly (l :: layers) =
      if l.layer = .global then l :: globalOnly layers else globalOnly layers := by
  simp only [globalOnly, List.filter_cons, decide_eq_true_eq]

/-! ## Overwriting, field by field -/

/-- A configuration overwritten by files, field by field. -/
def Config.overwritten (config : Config) (layers : List LayeredSettings) : Config where
  command := (lastSet (·.command) (globalOnly layers)).getD config.command
  lineLength := (lastSet (·.lineLength) layers).or config.lineLength
  fast := (lastSet (·.fast) layers).getD config.fast
  skipStringNormalization :=
    (lastSet (·.skipStringNormalization) layers).getD config.skipStringNormalization
  includePattern := (lastSet (·.includePattern) layers).or config.includePattern
  excludePattern := (lastSet (·.excludePattern) layers).or config.excludePattern
  py36 := (lastSet (·.py36) layers).getD config.py36
  defaultEncoding := (lastSet (·.defaultEncoding) layers).getD config.defaultEncoding
  debug := (lastSet (·.debug) layers).getD config.debug
  markers := {
    reformatted := (lastSet (·.markers.reformatted) layers).getD config.markers.reformatted
    unchanged := (lastSet (·.markers.unchanged) layers).getD config.markers.unchanged }

/-- Overwriting by a file and then by others is overwriting by all of them. -/
theorem Config.overwritten_cons (config : Config) (l : LayeredSettings)
    (layers : List LayeredSettings) :
    ((Config.trusted l.settings l.layer).applyTo config).overwritten layers =
      config.overwritten (l :: layers) := by
  rcases l with ⟨layer, settings⟩
  -- The layer matters for the executable alone.
  cases layer <;>
    simp only [overwritten, trusted, Settings.applyTo, lastSet_cons, globalOnly_cons, reduceCtorEq,
      if_true, if_false, Option.getD_or, Option.or_assoc, Option.orElse_eq_orElse,
      Option.orElse_eq_or, Option.getD_none]

/-- Overwriting by no file changes nothing. -/
theorem Config.overwritten_nil (config : Config) : config.overwritten [] = config := by
  rfl

/-! ## The files of a path -/

/-- A file that can be used is kept with its layer. -/
theorem ConfigFile.usable_cons_of_ok (w : World) (file : ConfigFile) (files : List ConfigFile)
    (settings : Settings) (h : Settings.read w file.path = .ok settings) :
    usable w (file :: files) = ⟨file.layer, settings⟩ :: usable w files := by
  simp only [usable, List.filterMap_cons, h]

/-- A file that cannot be used changes nothing, wherever it stands. -/
theorem ConfigFile.usable_of_error (w : World) (before : List ConfigFile) (file : ConfigFile)
    (after : List ConfigFile) (fault : Fault) (h : Settings.read w file.path = .error fault) :
    usable w (before ++ file :: after) = usable w (before ++ after) := by
  simp only [usable, List.filterMap_append, List.filterMap_cons, h]

/-- One pass over the files overwrites a configuration by those that can be used. The warnings that
    the pass collects do not matter. -/
theorem Config.fst_foldl_addLayer (w : World) (files : List ConfigFile) :
    ∀ (config : Config) (warnings : List Warning),
      (files.foldl
        (fun (config, warnings) file =>
          let (config, more) := addLayer w config file
          (config, warnings ++ more))
        (config, warnings)).1 = config.overwritten (ConfigFile.usable w files) := by
  -- The pass carries both along, so the rest of it may begin with any configuration and warnings.
  induction files with
  | nil =>
      intro config warnings
      rfl
  | cons file files ih =>
      intro config warnings
      rw [List.foldl_cons, ih]
      cases hread : Settings.read w file.path with
      | ok settings =>
          simp only [addLayer, hread, ConfigFile.usable_cons_of_ok w file files settings hread,
            overwritten_cons config ⟨file.layer, settings⟩]
      | error fault =>
          have husable := ConfigFile.usable_of_error w [] file files fault hread
          simp only [List.nil_append] at husable
          simp only [addLayer, hread, husable]

/-- The files that are found overwrite the defaults, in their order. -/
theorem Config.fst_discovered (w : World) (start : Path) :
    (discovered w start).1 =
      ({} : Config).overwritten (ConfigFile.usable w (ConfigFile.discover w start)) :=
  fst_foldl_addLayer w _ {} []

/-! ## The configuration that is resolved -/

namespace CommandLine

/-- The files that a command line goes by: the one that it names, which has to be usable and is
    trusted like the user's own, or those that are found and can be used. -/
def usedLayers (line : CommandLine) (w : World) (start : Path) :
    Except Fault (List LayeredSettings) :=
  match line.config with
  | some file => (Settings.read w file).map fun settings => [⟨.global, settings⟩]
  | none => .ok (ConfigFile.usable w (ConfigFile.discover w start))

/-- The configuration in which every field has its most specific value: the command line's, else
    that of the last file that sets it, else the default. Flags of the command line can only turn
    something on. -/
def mostSpecific (line : CommandLine) (layers : List LayeredSettings) : Config where
  command := (line.command.or (lastSet (·.command) (globalOnly layers))).getD "black"
  lineLength := line.lineLength.or (lastSet (·.lineLength) layers)
  fast := line.fast || (lastSet (·.fast) layers).getD false
  skipStringNormalization :=
    line.skipStringNormalization || (lastSet (·.skipStringNormalization) layers).getD false
  includePattern := line.includePattern.or (lastSet (·.includePattern) layers)
  excludePattern := line.excludePattern.or (lastSet (·.excludePattern) layers)
  py36 := line.py36 || (lastSet (·.py36) layers).getD false
  defaultEncoding :=
    (line.defaultEncoding.or (lastSet (·.defaultEncoding) layers)).getD "utf-8"
  debug := line.debug || (lastSet (·.debug) layers).getD false
  markers := {
    reformatted := (lastSet (·.markers.reformatted) layers).getD "reformatted"
    unchanged := (lastSet (·.markers.unchanged) layers).getD "unchanged" }

/-- The command line changes the overwritten defaults into the most specific configuration. -/
theorem applyTo_overwritten (line : CommandLine) (layers : List LayeredSettings) :
    line.applyTo (({} : Config).overwritten layers) = line.mostSpecific layers := by
  simp only [applyTo, Config.overwritten, mostSpecific, Option.getD_or, Option.or_none,
    Option.orElse_eq_orElse, Option.orElse_eq_or]

/-- Before the command line changes it, the configuration is that of the files it goes by. -/
theorem fst_layers (line : CommandLine) (w : World) (start : Path) :
    (line.layers w start).1 = (line.usedLayers w start).map ({} : Config).overwritten := by
  cases hconfig : line.config with
  | some file =>
      simp only [layers, usedLayers, hconfig, Config.ofFile]
      cases Settings.read w file with
      | error fault => rfl
      | ok settings =>
          -- A single file of the global layer overwrites the defaults by all that it sets.
          have hone := Config.overwritten_cons {} ⟨.global, settings⟩ []
          rw [Config.overwritten_nil] at hone
          exact congrArg Except.ok hone
  | none => simp only [layers, usedLayers, hconfig, Config.fst_discovered, Except.map]

/-- The configuration that is resolved for a path is the most specific one, if it is usable. -/
theorem fst_resolve (line : CommandLine) (w : World) (start : Path) :
    (line.resolve w start).1 =
      (line.usedLayers w start).bind fun layers => (line.mostSpecific layers).checked := by
  have hlayers := fst_layers line w start
  simp only [resolve, hlayers]
  cases line.usedLayers w start with
  | error fault => rfl
  | ok layers => simp only [Except.map, Except.bind, applyTo_overwritten]

/-- The configuration that is resolved for a path is the most specific one, if it is usable: every
    field goes by the command line, else by the last file that sets it, else by its default. A file
    can be used exactly if it is text and the text is a document that sets each field by its own
    name; a file that is found and cannot be used changes nothing, wherever it stands. A file behind
    all others decides on everything that it sets, whatever the value is. -/
theorem resolve_mostSpecific (line : CommandLine) (w : World) (start : Path) :
    (line.resolve w start).1 =
        ((line.usedLayers w start).bind fun layers => (line.mostSpecific layers).checked) ∧
      (∀ path settings, Settings.read w path = .ok settings ↔
        ∃ text, w.readText path = .ok text ∧ Settings.parse? text = some settings) ∧
      (∀ text settings, Settings.parse? text = some settings ↔
        ∃ entries, Toml.parse? text = some entries ∧ settings.Keyed entries) ∧
      (∀ origin entries markers, Settings.markers? (.table origin entries) = some markers ↔
        Settings.Sets Settings.string? entries "reformatted" markers.reformatted ∧
          Settings.Sets Settings.string? entries "unchanged" markers.unchanged) ∧
      (∀ before file after fault, Settings.read w file.path = .error fault →
        ConfigFile.usable w (before ++ file :: after) = ConfigFile.usable w (before ++ after)) ∧
      ∀ (α : Type) (field : Settings → Option α) layers last,
        lastSet field (layers ++ [last]) = (field last.settings).or (lastSet field layers) :=
  ⟨fst_resolve line w start, Settings.read_eq_ok_iff w, Settings.parse?_eq_some_iff,
    Settings.markers?_table_eq_some_iff, ConfigFile.usable_of_error w,
    fun _ field => lastSet_concat field⟩

/-- A world with a file in the home directory, a file that is no document, and one that turns off
    again what the first turned on. -/
def layeredWorld : World where
  files := ⟨[(["h"], .dir), (["h", "blackpipe.toml"], .file (Utf8.encode
      "command = 'black-22'\nfast = true\npy36 = true\nline_length = 88".toList) false),
    (["blackpipe.toml"], .file (Utf8.encode "line_length =".toList) false),
    (["p"], .dir), (["p", "blackpipe.toml"], .file (Utf8.encode
      "command = './run-me'\nfast = false\nmarkers.unchanged = 'same'".toList) false),
    (["p", "m.py"], .file [] false)]⟩
  cwd := ["p"]
  env := .ofList [("HOME", "/h")]
  programs := fun _ => none

/-- What the files of that world set. -/
theorem usedLayers_layeredWorld :
    usedLayers { skipStringNormalization := true } layeredWorld ⟨"m.py"⟩ =
      .ok [⟨.global, {
          command := some "black-22", fast := some true, py36 := some true,
          lineLength := some 88 }⟩,
        ⟨.project, {
          command := some "./run-me", fast := some false,
          markers := { unchanged := some "same" } }⟩] := by
  have hisFile : layeredWorld.isFile = fun p => _ :=
    funext fun p => FileSystem.isFile_eq_reachBy layeredWorld.files layeredWorld.cwd p
  have hdiscover : ConfigFile.discover layeredWorld ⟨"m.py"⟩ =
      [⟨⟨"/h/blackpipe.toml"⟩, .global⟩, ⟨⟨"/blackpipe.toml"⟩, .project⟩,
        ⟨⟨"/p/blackpipe.toml"⟩, .project⟩] := by
    unfold ConfigFile.discover ConfigFile.startDir? ConfigFile.inHome ConfigFile.add
    rw [hisFile]
    decide +kernel
  simp only [usedLayers, hdiscover, ConfigFile.usable, Settings.read, World.readText,
    World.readFile, FileSystem.read, FileSystem.resolve, FileSystem.reach_eq_reachBy]
  refine congrArg Except.ok ?_
  decide +kernel

/-- The last file turns off what the first one turned on, but it does not choose the executable, and
    the file between them does not matter. -/
theorem resolve_mostSpecific_layered :
    (resolve { skipStringNormalization := true } layeredWorld ⟨"m.py"⟩).1 =
      .ok {
        command := "black-22", lineLength := some 88, fast := false, py36 := true,
        skipStringNormalization := true,
        markers := { reformatted := "reformatted", unchanged := "same" } } := by
  rw [(resolve_mostSpecific _ _ _).1, usedLayers_layeredWorld]
  rfl

end CommandLine

/-! ## Without configuration files -/

namespace ConfigFile

/-- Without a file in the home directory, and with none at the root, there are no files for what is
    at the root. -/
theorem discover_atRoot {w : World} {start : Path} (hhome : home? w.env = none)
    (hstart : startDir? w start = some ⟨"/"⟩) (hnone : w.isFile ⟨"/blackpipe.toml"⟩ = false) :
    discover w start = [] := by
  have hancestors : Path.ancestors ⟨"/"⟩ = [⟨"/"⟩] := rfl
  have hjoin : Path.join ⟨"/"⟩ fileName = ⟨"/blackpipe.toml"⟩ := rfl
  simp only [discover, hstart, Option.map_some, Option.getD_some, hancestors,
    List.reverse_singleton, List.map_cons, List.map_nil, List.foldl_cons, List.foldl_nil, hjoin,
    add, hnone, Bool.false_and, Bool.false_eq_true, if_false, inHome, hhome, Option.map_none,
    Option.toList_none, List.filter_nil]

/-- The root is looked into for itself. -/
theorem startDir?_root (w : World) : startDir? w ⟨"/"⟩ = some ⟨"/"⟩ := by
  have habs : Path.absoluteFrom w.cwdPath ⟨"/"⟩ = ⟨"/"⟩ := by
    have hroot : Path.isAbsolute ⟨"/"⟩ = true := rfl
    simp only [Path.absoluteFrom, hroot, if_true]
    rfl
  have hresolve := FileSystem.resolve_root w.files w.cwd
  have hfile : w.isFile ⟨"/"⟩ = false := by
    rw [World.isFile, FileSystem.isFile, hresolve]
  have hdir : w.isDir ⟨"/"⟩ = true := by
    rw [World.isDir, FileSystem.isDir, hresolve]
  have hnonempty : ("/" : String).isEmpty = false := rfl
  simp only [startDir?, hnonempty, Bool.false_eq_true, if_false, habs, hfile, hdir, if_true]

end ConfigFile

/-- Where there are no configuration files, the configuration is that of the command line. -/
theorem CommandLine.resolve_of_discover_eq_nil {line : CommandLine} {w : World} {start : Path}
    (hconfig : line.config = none) (hnone : ConfigFile.discover w start = []) :
    line.resolve w start = ((line.applyTo {}).checked, []) := by
  simp only [resolve, layers, hconfig, Config.discovered, hnone, List.foldl_nil, Except.bind]

end BufferFormat
