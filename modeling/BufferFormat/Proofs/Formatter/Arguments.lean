import BufferFormat.Proofs.Session
import BufferFormat.Proofs.Text.Decimal
import Mathlib.Data.Option.Basic
import Mathlib.Tactic.Tauto

/-!
# No setting is lost on the formatter's command line

The settings of a run reach the formatter as a flat list of words, and a value among them may look
like anything: a pattern may be empty, and it may read like one of the options. The words still say
what was set, because the options stand in a fixed order. Where an option would begin, the word is
its name exactly if the option is given, as only the names of later options can stand there
otherwise. Its value, if it has one, is the word after the name, so it is passed over without being
looked at, whatever it reads like.

`eq_of_flatMap_words_eq` is that argument for any list of options with different names, by induction
on the list. Everything about the options of a configuration follows from it, as the number of a
line length can be read off its digits.

## Main definitions

* `Part`: An option that may be given or not.
* `parts`: The options of a command line, in their order.

## Theorems

* `Part.words_append_inj`: An option can be split off where its name cannot stand behind it.
* `eq_of_flatMap_words_eq`: Options with different names can be told from their words.
* `commandLine_eq_iff`: When two command lines are the same.
* `args_of_prepare`: A request asks for the command line of its configuration.
* `prepare_diff`: Asking for a diff adds one word to the request and changes nothing else.
-/

namespace BufferFormat

namespace Formatter

/-- An option that may be given or not. -/
inductive Part where
  | flag (name : String) (isSet : Bool)
  | option (name : String) (value : Option String)
  deriving DecidableEq, Repr

namespace Part

/-- What an option is called. -/
def name : Part → String
  | .flag name _ => name
  | .option name _ => name

/-- The option that is not given. -/
def unset : Part → Part
  | .flag name _ => .flag name false
  | .option name _ => .option name none

/-- The words of an option, which are none if it is not given. -/
def words : Part → List String
  | .flag name isSet => Formatter.flag name isSet
  | .option name value => Formatter.option name value

/-- The first word of some options is the name of one of them. -/
theorem mem_map_name_of_head? {word : String} (ps : List Part)
    (h : (ps.flatMap words).head? = some word) : word ∈ ps.map name := by
  induction ps with
  | nil => cases h
  | cons p ps ih =>
      rw [List.flatMap_cons] at h
      rw [List.map_cons, List.mem_cons]
      match p with
      | .flag _ false => exact Or.inr (ih h)
      | .flag _ true => exact Or.inl (Option.some.inj h).symm
      | .option _ none => exact Or.inr (ih h)
      | .option _ (some _) => exact Or.inl (Option.some.inj h).symm

/-- An option can be split off its words and what follows them, where its name cannot stand
    behind it. -/
theorem words_append_inj {p p' : Part} (hunset : p.unset = p'.unset) {rest rest' : List String}
    (hrest : rest.head? ≠ some p.name) (hrest' : rest'.head? ≠ some p.name)
    (h : p.words ++ rest = p'.words ++ rest') : p = p' ∧ rest = rest' := by
  match p, p', hunset with
  | .flag n isSet, .flag _ isSet', rfl =>
      match isSet, isSet' with
      | false, false => exact ⟨rfl, h⟩
      | true, true => exact ⟨rfl, List.tail_eq_of_cons_eq h⟩
      | false, true => exact absurd (congrArg List.head? h) hrest
      | true, false => exact absurd (congrArg List.head? h).symm hrest'
  | .option n value, .option _ value', rfl =>
      match value, value' with
      | none, none => exact ⟨rfl, h⟩
      | some v, some v' =>
          -- The name goes first, and the value is the word behind it.
          have hbehind := List.tail_eq_of_cons_eq h
          rw [List.head_eq_of_cons_eq hbehind]
          exact ⟨rfl, List.tail_eq_of_cons_eq hbehind⟩
      | none, some _ => exact absurd (congrArg List.head? h) hrest
      | some _, none => exact absurd (congrArg List.head? h).symm hrest'

theorem name_unset (p : Part) : p.unset.name = p.name := by
  cases p <;> rfl

end Part

/-- Options with different names can be told from their words. -/
theorem eq_of_flatMap_words_eq {ps ps' : List Part} (hunset : ps.map Part.unset = ps'.map Part.unset)
    (hnames : (ps.map Part.name).Nodup) (h : ps.flatMap Part.words = ps'.flatMap Part.words) :
    ps = ps' := by
  induction ps generalizing ps' with
  | nil => exact (List.map_eq_nil_iff.mp hunset.symm).symm
  | cons p ps ih =>
      match ps' with
      | p' :: ps' =>
          rw [List.map_cons, List.map_cons, List.cons.injEq] at hunset
          rw [List.map_cons, List.nodup_cons] at hnames
          rw [List.flatMap_cons, List.flatMap_cons] at h
          -- The other options have the same names.
          have hnames' : ps'.map Part.name = ps.map Part.name := by
            have hmapped := congrArg (List.map Part.name) hunset.2
            simpa only [List.map_map, Function.comp_def, Part.name_unset] using hmapped.symm
          have hrest : (ps.flatMap Part.words).head? ≠ some p.name :=
            fun hhead => hnames.1 (Part.mem_map_name_of_head? ps hhead)
          have hrest' : (ps'.flatMap Part.words).head? ≠ some p.name :=
            fun hhead => hnames.1 (hnames' ▸ Part.mem_map_name_of_head? ps' hhead)
          rcases Part.words_append_inj hunset.1 hrest hrest' h with ⟨rfl, hwords⟩
          rw [ih hunset.2 hnames.2 hwords]

/-! ## The options of a configuration -/

/-- The options of a command line, in their order. -/
def parts (config : Config) (file : Option Path) (mode : Mode) : List Part :=
  [.flag "--diff" (mode == .diff),
    .option "-l" (config.lineLength.map fun n => toString n.toNat),
    .flag "--fast" config.fast,
    .flag "--skip-string-normalization" config.skipStringNormalization,
    .option "--include" config.includePattern,
    .option "--exclude" config.excludePattern,
    .flag "--py36" config.py36,
    .flag "--pyi" (file.any isStub)]

theorem commandLine_eq_words (config : Config) (file : Option Path) (mode : Mode) :
    commandLine config file mode.extraArgs =
      config.command :: stdinMarker :: (parts config file mode).flatMap Part.words := by
  have hextra : mode.extraArgs = flag "--diff" (mode == .diff) := by
    cases mode <;> rfl
  simp only [commandLine, hextra, optionsFor, parts, List.flatMap_cons, List.flatMap_nil,
    List.append_nil, Part.words, List.append_assoc]

/-- The digits of a line length say which it is. -/
theorem lineLength_of_digits {n n' : Option UInt32}
    (h : (n.map fun n => toString n.toNat) = n'.map fun n => toString n.toNat) : n = n' := by
  refine Option.map_injective (fun a b hdigits => ?_) h
  have hread : Text.natural? (toString a.toNat).toList = Text.natural? (toString b.toNat).toList :=
    congrArg (fun digits => Text.natural? digits.toList) hdigits
  rw [Text.natural?_toString, Text.natural?_toString, Option.some.injEq] at hread
  exact UInt32.toNat_inj.mp hread

/-- When two command lines are the same: exactly if all settings are that the formatter is told. -/
theorem commandLine_eq_iff (config config' : Config) (file file' : Option Path)
    (mode mode' : Mode) :
    commandLine config file mode.extraArgs = commandLine config' file' mode'.extraArgs ↔
      config.command = config'.command ∧ parts config file mode = parts config' file' mode' := by
  rw [commandLine_eq_words, commandLine_eq_words, List.cons.injEq, List.cons.injEq]
  have hnames : ((parts config file mode).map Part.name).Nodup := by
    simp only [parts, List.map_cons, List.map_nil, Part.name]
    decide
  constructor
  · rintro ⟨hcommand, _, hwords⟩
    exact ⟨hcommand, eq_of_flatMap_words_eq rfl hnames hwords⟩
  · rintro ⟨hcommand, hparts⟩
    exact ⟨hcommand, rfl, congrArg _ hparts⟩

theorem parts_eq_iff (config config' : Config) (file file' : Option Path) (mode mode' : Mode) :
    parts config file mode = parts config' file' mode' ↔
      config.lineLength = config'.lineLength ∧ config.fast = config'.fast ∧
        config.skipStringNormalization = config'.skipStringNormalization ∧
        config.includePattern = config'.includePattern ∧
        config.excludePattern = config'.excludePattern ∧ config.py36 = config'.py36 ∧
        file.any isStub = file'.any isStub ∧ mode = mode' := by
  have hmode : (mode == .diff) = (mode' == .diff) ↔ mode = mode' := by
    cases mode <;> cases mode' <;> decide
  have hlength : ((config.lineLength.map fun n => toString n.toNat) =
      config'.lineLength.map fun n => toString n.toNat) ↔
        config.lineLength = config'.lineLength :=
    ⟨lineLength_of_digits, fun h => h ▸ rfl⟩
  simp only [parts, List.cons.injEq, Part.flag.injEq, Part.option.injEq, true_and, and_true, hmode,
    hlength]
  tauto

end Formatter

/-- Asking for a diff adds one word to the request and changes nothing else. -/
theorem prepare_diff (w : World) (config : Config) (platform : Platform) (view : View) :
    prepare w config platform view .diff =
      (prepare w config platform view .format).map fun prepared =>
        { prepared with
          request := { prepared.request with
            args := prepared.request.args.insertIdx 2 "--diff" } } := by
  simp only [prepare, bind, Except.bind]
  split <;> rfl

/-- A request asks for the command line of its configuration. -/
theorem args_of_prepare (w : World) (config : Config) (platform : Platform) (view : View)
    (mode : Mode) (prepared : Prepared)
    (h : prepare w config platform view mode = .ok prepared) :
    prepared.request.args = Formatter.commandLine config view.file mode.extraArgs := by
  rcases (prepare_eq_ok_iff _ _ _ _ _ _).mp h with ⟨input, _, rfl⟩
  rfl

/-- No setting is lost on the formatter's command line, whatever the values look like. A request
    has that command line, and the two modes differ in one word of it, which stands behind the first
    two. -/
theorem Formatter.commandLine_eq_iff_and_prepare_diff (config config' : Config)
    (file file' : Option Path) (mode mode' : Mode) (w : World) (platform : Platform) (view : View) :
    (commandLine config file mode.extraArgs = commandLine config' file' mode'.extraArgs ↔
        config.command = config'.command ∧ config.lineLength = config'.lineLength ∧
          config.fast = config'.fast ∧
          config.skipStringNormalization = config'.skipStringNormalization ∧
          config.includePattern = config'.includePattern ∧
          config.excludePattern = config'.excludePattern ∧ config.py36 = config'.py36 ∧
          file.any isStub = file'.any isStub ∧ mode = mode') ∧
      (∀ prepared, prepare w config platform view mode = .ok prepared →
        prepared.request.args = commandLine config view.file mode.extraArgs) ∧
      (commandLine config view.file Mode.format.extraArgs =
          config.command :: stdinMarker :: optionsFor config view.file ∧
        commandLine config view.file Mode.diff.extraArgs =
          config.command :: stdinMarker :: "--diff" :: optionsFor config view.file) ∧
      prepare w config platform view .diff =
        (prepare w config platform view .format).map fun prepared =>
          { prepared with
            request := { prepared.request with
              args := prepared.request.args.insertIdx 2 "--diff" } } := by
  refine ⟨?_, args_of_prepare w config platform view mode, ⟨rfl, rfl⟩,
    prepare_diff w config platform view⟩
  rw [commandLine_eq_iff, parts_eq_iff]

/-- A pattern that reads like the options behind it is told from them, and the request for a diff of
    a stub has the word for it in front of all of them. -/
theorem Formatter.commandLine_eq_iff_and_prepare_diff_stub :
    let config : Config :=
      { includePattern := some "--exclude", excludePattern := some "--py36", lineLength := some 79 }
    let other : Config :=
      { includePattern := some "--exclude", py36 := true, lineLength := some 79 }
    let w : World := ⟨⟨[]⟩, [], .empty, fun _ => none⟩
    let view : View := ⟨⟨"x", some "utf-8"⟩, some ⟨"/p/a.pyi"⟩, []⟩
    commandLine config none Mode.format.extraArgs ≠ commandLine other none Mode.format.extraArgs ∧
      ∃ shown formatted,
        prepare w config .unix view .diff = .ok shown ∧
        prepare w config .unix view .format = .ok formatted ∧
        shown.request = { formatted.request with args := shown.request.args } ∧
        shown.request.args = ["black", "-", "--diff", "-l", "79", "--include", "--exclude",
          "--exclude", "--py36", "--pyi"] := by
  intro config other w view
  have hinput : encodeText "x" "utf-8" = .ok [0x78] := by rfl
  rcases exists_prepare w config .unix view .format [0x78] hinput with
    ⟨formatted, hformatted, _⟩
  rcases commandLine_eq_iff_and_prepare_diff config other none none .format .format w .unix view
    with ⟨htold, hargs, ⟨hformat, _⟩, hdiff⟩
  rw [hformatted, Except.map] at hdiff
  refine ⟨fun h => ?_, _, formatted, hdiff, hformatted, rfl, ?_⟩
  · exact absurd (htold.mp h).2.2.2.2.2.2.1 (by decide)
  · rw [hargs formatted hformatted, hformat]
    rfl

end BufferFormat
