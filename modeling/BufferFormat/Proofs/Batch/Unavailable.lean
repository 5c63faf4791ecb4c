import BufferFormat.Proofs.Batch.Ending
import BufferFormat.Proofs.Batch.Frame
import BufferFormat.Proofs.Config.Executable

/-!
# A formatter that cannot be found

A formatter that cannot be found is reported once for a whole batch, by whichever file comes first.
That is only right if every file would have reported the same, and it does not go without saying:
each file has a configuration of its own, and the report names the executable.

The report is the same for two reasons. The files of a batch may be configured differently in every
respect but the executable, which no file of a project can choose. And there is one way only in
which the fault comes about, the start of the formatter; nothing else that can stop a run looks like
it.

## Main definitions

* `Found`: A computation that does not fail for want of the formatter.
* `Formatter.unavailable`: The fault of a formatter that cannot be found.

## Theorems

* `Formatter.start_unavailable`: Starting a formatter that cannot be found has only this fault.
* `CommandLine.command_resolve`: All files that are found for a batch name one executable.
* `Ending.unavailable_ofQueued`: All runs of a batch that cannot find the formatter have one fault.
-/

namespace BufferFormat

/-- A computation that may fail, but not for want of the formatter. -/
def Found {α : Type} (x : Except Fault α) : Prop :=
  ∀ fault, x = .error fault → fault.isToolUnavailable = false

namespace Found

theorem ok {α : Type} (a : α) : Found (.ok a) :=
  nofun

theorem error {α : Type} {fault : Fault} (h : fault.isToolUnavailable = false) :
    Found (.error fault : Except Fault α) := by
  rintro _ ⟨⟩
  exact h

theorem bind {α β : Type} {x : Except Fault α} {f : α → Except Fault β} (hx : Found x)
    (hf : ∀ a, Found (f a)) : Found (x >>= f) := by
  cases x with
  | error fault => exact error (hx fault rfl)
  | ok a => exact hf a

theorem map {α β : Type} {x : Except Fault α} (hx : Found x) (f : α → β) : Found (x.map f) := by
  cases x with
  | error fault => exact error (hx fault rfl)
  | ok a => exact ok (f a)

end Found

/-! ## What has nothing to do with the formatter -/

theorem Encoding.found_lookup (label : String) : Found (lookup label) := by
  unfold lookup
  split
  · exact .ok _
  · exact .error rfl

theorem found_encodeText (text label : String) : Found (encodeText text label) := by
  refine .bind (Encoding.found_lookup label) fun e => ?_
  split
  · exact .ok _
  · exact .error rfl

theorem found_decodeBytes (bytes : List UInt8) (label : String) :
    Found (decodeBytes bytes label) := by
  refine .bind (Encoding.found_lookup label) fun e => ?_
  split
  · exact .ok _
  · exact .error rfl

theorem found_verdict (outcome : Outcome) (ctx : Context) (file : Option Path) :
    Found (verdict outcome ctx file) := by
  unfold verdict
  split
  · exact .ok _
  · split
    · exact .ok _
    · split
      · refine .bind (.bind (found_decodeBytes _ _) fun text => .ok _) fun text => .ok _
      · exact .bind (found_decodeBytes _ _) fun text => .ok _

theorem found_prepare (w : World) (config : Config) (platform : Platform) (view : View)
    (mode : Mode) : Found (prepare w config platform view mode) :=
  .bind (found_encodeText _ _) fun _ => .ok _

namespace FileHost

theorem found_ofBytes (path : Option Path) (bytes : List UInt8) (declared : Option String)
    (default : String) (output : Output) : Found (ofBytes path bytes declared default output) := by
  unfold ofBytes
  cases hdecode : decodeBytes bytes (labelFor bytes declared default) with
  | error fault =>
      simp only [hdecode]
      exact .error (found_decodeBytes _ _ fault hdecode)
  | ok text =>
      simp only [hdecode]
      exact .ok _

theorem found_openFile (w : World) (path : Path) (declared : Option String) (default : String)
    (output : Output) : Found (openFile w path declared default output) := by
  unfold openFile World.readFile
  split
  · exact found_ofBytes _ _ _ _ _
  · rename_i fault hread
    split at hread
    · cases hread
      exact .error rfl
    · split at hread
      · cases hread
      · cases hread
        exact .error rfl

theorem found_finishUnder (h : FileHost) (applied : Applied) :
    Found (h.finishUnder .none applied) := by
  unfold finishUnder
  split
  · exact .bind (found_encodeText _ _) fun bytes => .ok _
  · exact .bind (found_encodeText _ _) fun bytes => .ok _
  · exact .ok _

theorem found_writeFile (w : World) (path : Path) (bytes : List UInt8) :
    Found (w.writeFile path bytes) := by
  unfold World.writeFile
  split
  · exact .error rfl
  · split
    · exact .ok _
    · exact .error rfl

theorem found_replaceTextUnder (h : FileHost) (w : World) (text : String) :
    Found (h.replaceTextUnder .none w text).result := by
  unfold replaceTextUnder
  cases henc : encodeText text h.encoding with
  | error fault => exact .error (found_encodeText _ _ fault henc)
  | ok bytes =>
      simp only
      split
      · simp only [Refusals.none, World.writeFileUnless]
        split
        · rename_i fault hwrite
          exact .error (found_writeFile _ _ _ fault hwrite)
        · exact .ok _
      · exact .ok _

theorem found_performUnder (h : FileHost) (w : World) (action : Action) :
    Found (h.performUnder .none w action).result := by
  cases action with
  | reject status message => exact .ok _
  | keep => exact .ok _
  | showDiff label text => exact .ok _
  | replace text =>
      have hmap := Found.map (found_replaceTextUnder h w text) fun _ => Applied.reformatted
      simp only [performUnder_replace, hmap]

/-- Where the system refuses nothing, the end of a run does not fail for want of the formatter. -/
theorem found_concludeUnder (h : FileHost) (w : World) (action : Action) (mode : Mode) :
    Found (h.concludeUnder .none w action mode).result := by
  have hact := found_performUnder h w action
  unfold concludeUnder
  simp only
  split
  · split
    · exact hact
    · rename_i fault hfinish
      exact .error (found_finishUnder _ _ fault hfinish)
  · exact hact

end FileHost

/-! ## The start of the formatter -/

namespace Formatter

/-- The fault of a formatter that cannot be found. Where the executable is looked for beforehand,
    it is that of the search. -/
def unavailable (w : World) (program : String) (env : Environment) (platform : Platform) : Fault :=
  match prepareLaunch w program env platform with
  | .error fault => fault
  | .ok _ => .toolUnavailable program OsError.notFound.message

/-- Only what was not found makes the formatter unavailable. -/
theorem startFault_unavailable {program : String} {e : OsError}
    (h : (startFault program e).isToolUnavailable = true) :
    startFault program e = .toolUnavailable program OsError.notFound.message := by
  cases e with
  | notFound => rfl
  | _ => cases h

/-- Starting a formatter that cannot be found has this fault and no other. -/
theorem start_unavailable {w : World} {r : Request} {platform : Platform} {fault : Fault}
    {program : String} {args : List String} (hargs : r.args = program :: args)
    (h : start w r platform = .error fault) (htool : fault.isToolUnavailable = true) :
    fault = unavailable w program r.env platform := by
  unfold start at h
  simp only [hargs] at h
  unfold unavailable
  cases hlaunch : prepareLaunch w program r.env platform with
  | error found =>
      rw [hlaunch] at h
      exact (Except.error.inj h).symm
  | ok launch =>
      simp only [hlaunch, bind, Except.bind] at h
      split at h
      · -- A directory that cannot be entered is another fault.
        cases h
        cases htool
      · split at h
        · cases h
        · cases h
          exact startFault_unavailable htool

end Formatter

/-- A run that is stopped before the host acts is stopped for want of the formatter only by the
    start of it. -/
theorem attemptWith_unavailable {w v : World} {config : Config} {platform : Platform} {view : View}
    {mode : Mode} {fault : Fault}
    (h : (attemptWith (Formatter.start w · platform) v config platform view mode).action =
      .error fault) (htool : fault.isToolUnavailable = true) :
    fault = Formatter.unavailable w config.command
      (Locale.provide v.env true platform (Locale.ofEnvironment v.env)) platform := by
  -- A request is prepared before the start and an answer is judged after it, and neither has this
  -- fault.
  unfold attemptWith at h
  cases hprepare : prepare v config platform view mode with
  | error stopped =>
      rw [hprepare] at h
      cases h
      rw [found_prepare v config platform view mode fault hprepare] at htool
      cases htool
  | ok prepared =>
      rcases (prepare_eq_ok_iff _ _ _ _ _ _).mp hprepare with ⟨input, _, hrequest⟩
      rw [hprepare] at h
      simp only at h
      cases hstart : Formatter.start w prepared.request platform with
      | error stopped =>
          simp only [hstart] at h
          cases h
          have := Formatter.start_unavailable (by rw [hrequest]; rfl) hstart htool
          rw [this, hrequest]
      | ok answer =>
          simp only [hstart] at h
          rw [found_verdict _ _ _ fault h] at htool
          cases htool

/-! ## All runs of a batch -/

namespace CommandLine

/-- The executable is that of the command line, else that of the file in the home directory,
    whatever the configuration is for. -/
theorem command_resolve {line : CommandLine} {w : World} {start : Path} {config : Config}
    (hconfig : line.config = none) (h : (line.resolve w start).1 = .ok config) :
    config.command = (line.command.or
      (lastSet (·.command) (ConfigFile.usable w (ConfigFile.inHome w)))).getD "black" := by
  rw [fst_resolve] at h
  simp only [usedLayers, hconfig, Except.bind, Config.checked] at h
  split at h
  · cases h
  · rw [← Except.ok.inj h]
    simp only [mostSpecific, ConfigFile.globalOnly_discover]

end CommandLine

namespace Batch.Setup

theorem found_configFor (setup : Batch.Setup) (w : World) (path : Path) :
    Found (setup.configFor w path).1 := by
  unfold configFor
  cases hconfig : setup.line.config with
  | some file => exact .ok _
  | none =>
      simp only [CommandLine.fst_resolve, CommandLine.usedLayers, hconfig, Except.bind,
        Config.checked]
      split
      · exact .error rfl
      · exact .ok _

/-- All files of a batch have the executable of the configuration for the working directory. -/
theorem command_configFor {setup : Batch.Setup} {w : World} {path : Path} {config : Config}
    (hbase : (setup.line.resolve w w.cwdPath).1 = .ok setup.base)
    (h : (setup.configFor w path).1 = .ok config) : config.command = setup.base.command := by
  unfold configFor at h
  cases hconfig : setup.line.config with
  | some file =>
      simp only [hconfig] at h
      rw [Except.ok.inj h]
  | none =>
      simp only [hconfig] at h
      rw [CommandLine.command_resolve hconfig h, CommandLine.command_resolve hconfig hbase]

/-- The fault of all runs of a batch that cannot find the formatter. -/
def unavailable (setup : Batch.Setup) (w : World) : Fault :=
  Formatter.unavailable w setup.base.command
    (Locale.provide w.env true setup.platform (Locale.ofEnvironment w.env)) setup.platform

end Batch.Setup

/-- A run of a batch that cannot find the formatter has the one fault that all of them have. -/
theorem Ending.unavailable_ofQueued {setup : Batch.Setup} {w : World} {path : Path} {fault : Fault}
    (hbase : (setup.line.resolve w w.cwdPath).1 = .ok setup.base)
    (h : (ofQueued setup (w.service setup.platform) w path).result = .error fault)
    (htool : fault.isToolUnavailable = true) : fault = setup.unavailable w := by
  -- What can be found to be without this fault has not stopped the run.
  have hfound : ∀ {x : Except Fault Applied}, Found x → x ≠ .error fault := by
    intro x hx hfault
    rw [hx fault hfault] at htool
    cases htool
  unfold ofQueued at h
  cases hconfig : (setup.configFor w path).1 with
  | error stopped =>
      rw [hconfig] at h
      exact absurd h (hfound (.error (setup.found_configFor w path stopped hconfig)))
  | ok config =>
      simp only [hconfig, after, ofResolved] at h
      cases hopen : FileHost.openFile w path setup.line.encoding config.defaultEncoding
          setup.line.output with
      | error stopped =>
          rw [hopen] at h
          exact absurd h (hfound (.error (FileHost.found_openFile _ _ _ _ _ stopped hopen)))
      | ok host =>
          simp only [hopen, ofOpened, after] at h
          split at h
          · exact absurd h (hfound (FileHost.found_concludeUnder _ _ _ _))
          · rename_i stopped haction
            cases h
            rw [attemptWith_unavailable haction htool,
              Batch.Setup.command_configFor hbase hconfig, Batch.Setup.unavailable]

end BufferFormat
