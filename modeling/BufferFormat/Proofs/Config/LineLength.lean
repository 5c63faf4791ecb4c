import BufferFormat.Config.Resolve
import BufferFormat.Formatter.Arguments
import BufferFormat.Proofs.CommandLine.Rendering
import BufferFormat.Proofs.FileSystem
import BufferFormat.Proofs.Text.Utf8
import BufferFormat.Proofs.Toml.Written

/-!
# Line lengths on both routes

A line length comes from the command line or from a configuration file, and the
two routes check it in different places. The command line refuses a number
outside of its range at once. A file can hold any integer that fits in 64 bits,
of which the settings take what has 32 bits, and a zero is only noticed when the
whole configuration is checked. The bounds are the same in the end, so no
integer is accepted on one route and refused on the other.

What was accepted is the integer itself: nothing wraps around where it is put
into 32 bits, and the formatter is told it in its canonical digits, as
`Text.canonical_toString` shows for all numbers.

## Main definitions

* `IsLineLength`: The integers that are line lengths.
* `Formatter.Tells`: The formatter is told a line length.

## Theorems

* `CommandLine.parse_setting`: How a setting alone on the command line is read.
* `CommandLine.lineLength?_toString_int`: Which integers the command line takes.
* `Settings.parse?_lineLength`: Which integers the settings take.
* `Config.checked_lineLength`: Which of them are no defect.
* `Formatter.tells_of_lineLength`: What the formatter is told.
* `lineLength_of_written`: Both routes accept the same integers as what they are.
-/

namespace BufferFormat

/-- The integers that are line lengths. -/
def IsLineLength (i : Int) : Prop :=
  1 ≤ i ∧ i ≤ 4294967295

instance (i : Int) : Decidable (IsLineLength i) :=
  inferInstanceAs (Decidable (1 ≤ i ∧ i ≤ 4294967295))

theorem IsLineLength.bounds {i : Int} (h : IsLineLength i) : 0 ≤ i ∧ i ≤ 4294967295 :=
  ⟨Int.le_trans (by decide) h.1, h.2⟩

/-- What is not negative and has 32 bits is not changed by putting it into them. -/
theorem toNat_ofNat_toNat {i : Int} (h : 0 ≤ i ∧ i ≤ 4294967295) :
    ((UInt32.ofNat i.toNat).toNat : Int) = i := by
  have hlt : i.toNat < UInt32.size := by
    rw [UInt32.size]
    omega
  rw [UInt32.toNat_ofNat_of_lt' hlt, Int.toNat_of_nonneg h.1]

/-! ## The command line -/

namespace CommandLine

/-- How a setting alone on the command line is read. -/
theorem parse_setting (program : String) (s : Setting) (text : String) :
    parse [program, "--" ++ s.long ++ "=" ++ text] =
      Reading.checked (({} : CommandLine).set s text) := by
  -- The first equals sign ends the name, whatever the value is.
  have hname := Named.equals_not_mem_long (.setting s)
  have htoken : Token.ofString ("--" ++ s.long ++ "=" ++ text) = .long s.long (some text) := by
    refine Token.ofString_long (Named.long_ne_empty (.setting s)) hname ?_
    simp only [String.toList_append, List.append_assoc]
    rfl
  -- Nothing was given before, so nothing is given twice.
  have hgive : ({} : CommandLine).give s text = ({} : CommandLine).set s text := by
    cases s <;> rfl
  have hlong : Named.ofLong? s.long = some (.setting s) := Named.ofLong?_long (.setting s)
  have hstep : Reading.step {} ("--" ++ s.long ++ "=" ++ text) =
      (Reading.checked (({} : CommandLine).set s text)).map fun line => { line } := by
    rw [Reading.step, if_neg Bool.false_ne_true, htoken]
    simp only [Reading.long, hlong, Reading.attach, Reading.settle, bind, Except.bind, hgive]
    cases ({} : CommandLine).set s text <;> rfl
  rw [parse, ofTokens, List.tail_cons, List.foldlM_cons, hstep]
  cases ({} : CommandLine).set s text <;> rfl

/-- Which integers the command line takes. -/
theorem lineLength?_toString_int (i : Int) :
    lineLength? (toString i) =
      if IsLineLength i then some (UInt32.ofNat i.toNat) else none := by
  by_cases hi : 0 ≤ i
  · have hiff : (1 ≤ i.toNat ∧ i.toNat < UInt32.size) ↔ IsLineLength i := by
      rw [IsLineLength, UInt32.size]
      omega
    rw [Text.toString_of_nonneg hi, lineLength?, number?_toString, Option.bind_some]
    simp only [hiff]
  · -- A minus is neither a plus nor a digit.
    have hread : number? (toString i) = none := by
      rw [number?, Text.toList_toString_of_neg (by omega)]
      rfl
    rw [lineLength?, hread, if_neg fun h => hi h.bounds.1]
    rfl

/-- What a line length on the command line makes, and what is said if it is none. -/
theorem parse_lineLength (program : String) (i : Int) :
    parse [program, "--line-length=" ++ toString i] =
      if IsLineLength i then .ok { lineLength := some (UInt32.ofNat i.toNat) }
      else .error (.misused (.invalid .lineLength (toString i))) := by
  have hread := parse_setting program .lineLength (toString i)
  by_cases hi : IsLineLength i
  · rw [set, lineLength?_toString_int, if_pos hi] at hread
    rw [if_pos hi]
    exact hread
  · rw [set, lineLength?_toString_int, if_neg hi] at hread
    rw [if_neg hi]
    exact hread

end CommandLine

/-! ## The configuration file -/

namespace Settings

/-- A table with nothing but a line length makes no other setting. -/
theorem ofTable?_lineLength (value : Toml.Value) :
    ofTable? [("line_length", value)] = (word? value).map fun n => { lineLength := some n } := by
  have honly : ofTable? [("line_length", value)] =
      ((word? value).map some).bind fun n => some { lineLength := n } := rfl
  rw [honly]
  cases word? value <;> rfl

theorem word?_integer (i : Int) :
    word? (.integer i) =
      if 0 ≤ i ∧ i ≤ 4294967295 then some (UInt32.ofNat i.toNat) else none := by
  have hiff : (decide (0 ≤ i) && decide (i.toNat < UInt32.size)) = true ↔
      0 ≤ i ∧ i ≤ 4294967295 := by
    rw [Bool.and_eq_true, decide_eq_true_eq, decide_eq_true_eq, UInt32.size]
    omega
  simp only [word?, hiff]

/-- Which integers the settings take. A zero is one of them. -/
theorem parse?_lineLength (i : Int) {lineEnd : String} (hlineEnd : lineEnd ∈ ["", "\n", "\r\n"]) :
    parse? ("line_length = " ++ toString i ++ lineEnd) =
      if 0 ≤ i ∧ i ≤ 4294967295 then some { lineLength := some (UInt32.ofNat i.toNat) }
      else none := by
  have hname : Toml.IsBareName "line_length" := ⟨by decide, List.all_eq_true.mp rfl⟩
  have hentries := Toml.parse?_integer hname i hlineEnd
  rw [← String.append_assoc] at hentries
  have hdocument : parse? ("line_length = " ++ toString i ++ lineEnd) = _ :=
    congrArg (·.bind ofTable?) hentries
  rw [hdocument]
  by_cases hi : 0 ≤ i ∧ i ≤ 4294967295
  · -- What has 32 bits fits in 64.
    have hfits : Toml.fits i = true := by
      rw [Toml.fits, Bool.and_eq_true, decide_eq_true_eq, decide_eq_true_eq]
      have hmin : Int64.minValue.toInt = -9223372036854775808 := rfl
      have hmax : Int64.maxValue.toInt = 9223372036854775807 := rfl
      omega
    simp only [hfits, if_true, Option.bind_some, ofTable?_lineLength, word?_integer, if_pos hi,
      Option.map_some]
  · rw [if_neg hi]
    split
    · simp only [Option.bind_some, ofTable?_lineLength, word?_integer, if_neg hi, Option.map_none]
    · rfl

end Settings

namespace Config

/-- Among line lengths alone, only a zero is a defect. -/
theorem checked_lineLength (n : UInt32) :
    checked { lineLength := some n } =
      if n = 0 then .error (.invalidConfig Defect.zeroLineLength.message)
      else .ok { lineLength := some n } := by
  have hcommand : ¬(Text.trim "black").isEmpty = true := by decide
  by_cases hn : n = 0
  · have hdefect : defect? { lineLength := some n } = some .zeroLineLength := by
      rw [defect?, if_neg hcommand, if_pos (congrArg some hn)]
    rw [if_pos hn, checked, hdefect]
  · -- All that is left to check are defaults.
    have hdefault : defect? {} = none := by rfl
    have hdefect : defect? { lineLength := some n } = none := by
      rw [defect?, if_neg hcommand, if_neg nofun] at hdefault
      rw [defect?, if_neg hcommand, if_neg fun hzero => hn (Option.some.inj hzero)]
      exact hdefault
    rw [if_neg hn, checked, hdefect]

/-- Which integers make a usable configuration, in a file that holds nothing else. -/
theorem ofFile_lineLength {w : World} {path : Path} (i : Int) {lineEnd : String}
    (hlineEnd : lineEnd ∈ ["", "\n", "\r\n"])
    (hfile : w.readFile path =
      .ok (Utf8.encode ("line_length = " ++ toString i ++ lineEnd).toList)) :
    (ofFile w path).bind checked =
      if IsLineLength i then .ok { lineLength := some (UInt32.ofNat i.toNat) }
      else
        .error (if i = 0 then .invalidConfig Defect.zeroLineLength.message else .badDocument) := by
  have htext : w.readText path = .ok ("line_length = " ++ toString i ++ lineEnd) :=
    (World.readText_eq_ok_iff _ _ _).mpr
      ⟨_, _, hfile, Utf8.decode?_encode _, String.ofList_toList.symm⟩
  rw [ofFile, Settings.read, htext]
  simp only [bind, Except.bind, Settings.parse?_lineLength i hlineEnd]
  by_cases hi : 0 ≤ i ∧ i ≤ 4294967295
  · have hchecked := checked_lineLength (UInt32.ofNat i.toNat)
    have hword := toNat_ofNat_toNat hi
    rw [if_pos hi]
    by_cases hzero : i = 0
    · subst hzero
      exact hchecked
    · have hlength : IsLineLength i := ⟨by omega, hi.2⟩
      have hne : UInt32.ofNat i.toNat ≠ 0 := by
        intro heq
        rw [heq] at hword
        exact hzero hword.symm
      rw [if_neg hne] at hchecked
      rw [if_pos hlength]
      exact hchecked
  · have hlength : ¬IsLineLength i := by
      rw [IsLineLength]
      omega
    have hne : i ≠ 0 := by omega
    rw [if_neg hi, if_neg hlength, if_neg hne]
    rfl

end Config

/-! ## The formatter -/

namespace Formatter

/-- A configuration has a line length, and the formatter is told it in its canonical form, whatever
    the file is and whatever else the formatter is told. -/
structure Tells (config : Config) (i : Int) : Prop where
  holds : config.lineLength.map (fun n => (n.toNat : Int)) = some i
  told : ∀ file extra, commandLine config file extra =
    config.command :: stdinMarker ::
      (extra ++ "-l" :: toString i :: optionsFor { config with lineLength := none } file)
  canonical : Text.Canonical (toString i) i.toNat

/-- A line length stands in front of all other options. -/
theorem optionsFor_of_lineLength {config : Config} {n : UInt32} (h : config.lineLength = some n)
    (file : Option Path) :
    optionsFor config file =
      "-l" :: toString n.toNat :: optionsFor { config with lineLength := none } file := by
  rw [optionsFor, h]
  rfl

theorem tells_of_lineLength {config : Config} {i : Int} (hi : IsLineLength i)
    (h : config.lineLength = some (UInt32.ofNat i.toNat)) : Tells config i where
  holds := by
    rw [h, Option.map_some, toNat_ofNat_toNat hi.bounds]
  told := by
    intro file extra
    have hdigits : toString (UInt32.ofNat i.toNat).toNat = toString i := by
      have hword := toNat_ofNat_toNat hi.bounds
      rw [Text.toString_of_nonneg hi.bounds.1]
      congr 1
      omega
    rw [commandLine, optionsFor_of_lineLength h, hdigits]
  canonical := by
    rw [Text.toString_of_nonneg hi.bounds.1]
    exact Text.canonical_toString i.toNat

end Formatter

/-- Both routes accept the same integers, and what was accepted is the integer itself, up to the
    digits that the formatter is told. -/
theorem lineLength_of_written (i : Int) (program : String) (w : World) (path : Path)
    (lineEnd : String) (hlineEnd : lineEnd ∈ ["", "\n", "\r\n"])
    (hfile : w.readFile path =
      .ok (Utf8.encode ("line_length = " ++ toString i ++ lineEnd).toList)) :
    let given := CommandLine.parse [program, "--line-length=" ++ toString i]
    let filed := (Config.ofFile w path).bind Config.checked
    ((∃ line, given = .ok line) ↔ IsLineLength i) ∧
      ((∃ config, filed = .ok config) ↔ IsLineLength i) ∧
      (∀ line, given = .ok line →
        line.lineLength.map (fun n => (n.toNat : Int)) = some i ∧
          ∀ config, Formatter.Tells (line.applyTo config) i) ∧
      ∀ config, filed = .ok config → Formatter.Tells config i := by
  intro given filed
  -- Both routes come down to one case distinction.
  have hgiven : given = _ := CommandLine.parse_lineLength program i
  have hfiled : filed = _ := Config.ofFile_lineLength i hlineEnd hfile
  by_cases hi : IsLineLength i
  · rw [if_pos hi] at hgiven hfiled
    refine ⟨iff_of_true ⟨_, hgiven⟩ hi, iff_of_true ⟨_, hfiled⟩ hi, fun line hline => ?_,
      fun config hconfig => ?_⟩
    · cases hgiven.symm.trans hline
      refine ⟨?_, fun config => Formatter.tells_of_lineLength hi rfl⟩
      rw [Option.map_some, toNat_ofNat_toNat hi.bounds]
    · cases hfiled.symm.trans hconfig
      exact Formatter.tells_of_lineLength hi rfl
  · rw [if_neg hi] at hgiven hfiled
    refine ⟨iff_of_false ?_ hi, iff_of_false ?_ hi, fun line hline => ?_, fun config hconfig => ?_⟩
    · rintro ⟨line, hline⟩
      cases hgiven.symm.trans hline
    · rintro ⟨config, hconfig⟩
      cases hfiled.symm.trans hconfig
    · cases hgiven.symm.trans hline
    · cases hfiled.symm.trans hconfig

/-- The largest line length, on both routes. -/
theorem lineLength_of_written_largest :
    let data := Utf8.encode "line_length = 4294967295\n".toList
    let w := World.holding ["a.py"] data
    "\n" ∈ ["", "\n", "\r\n"] ∧ w.readFile ⟨"/a.py"⟩ = .ok data ∧
      (∃ line, CommandLine.parse ["blackpipe", "--line-length=4294967295"] = .ok line ∧
        ∀ config, Formatter.Tells (line.applyTo config) 4294967295) ∧
      ∃ config, (Config.ofFile w ⟨"/a.py"⟩).bind Config.checked = .ok config ∧
        Formatter.Tells config 4294967295 := by
  intro data w
  have hwritten : toString (4294967295 : Int) = "4294967295" := by decide
  have hfile : w.readFile ⟨"/a.py"⟩ = .ok data := World.readFile_holding data
  have hboth := lineLength_of_written 4294967295 "blackpipe" w ⟨"/a.py"⟩ "\n" (by decide)
    (by rw [hwritten]; exact hfile)
  rw [hwritten] at hboth
  rcases hboth with ⟨hgiven, hfiled, htold, htold'⟩
  rcases hgiven.mpr (by decide) with ⟨line, hline⟩
  rcases hfiled.mpr (by decide) with ⟨config, hconfig⟩
  exact ⟨by decide, hfile, ⟨line, hline, (htold line hline).2⟩, config, hconfig,
    htold' config hconfig⟩

end BufferFormat
