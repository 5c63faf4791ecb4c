import BufferFormat.Host.Memory
import BufferFormat.Proofs.Encoding.Label
import BufferFormat.Proofs.Encoding.RoundTrip
import BufferFormat.Proofs.FileSystem
import BufferFormat.Proofs.Session

/-!
# What can stop a run over a valid configuration

A configuration is validated so that later stages need not fear it. The module says what is left
that can go wrong, and where: building a request can fail because of the buffer only, and acting on
an outcome can fail because of what the formatter printed only.

The label for a buffer has three sources, but validation looks at one of them. A default that passed
is a label that some encoding has, so an unknown label was reported by the host or declared in the
text. That the two looks at the default agree is no accident of spelling: validation and encoding
look the label up by the same function, and whatever blanks stand around it are dropped there.

Once a request was built, its label is known to name an encoding. The same label is used on the
output, and only a change is decoded at all. So the one fault that is left is output that is
malformed in that encoding.

## Main definitions

* `View.declaredLabel?`: The label that the host reports or the text declares.
* `Formatter.WellFormed`: Arguments that the formatter can be started with.

## Theorems

* `encodeText_eq_error_iff`, `decodeBytes_eq_error_iff`: When conversion by a label fails.
* `prepare_eq_error_iff`, `verdict_eq_error_iff`: When a stage of a run fails.
* `Config.wellFormed_commandLine`: A valid configuration gives well-formed arguments.
* `MemoryHost.faults_of_valid`: All that can stop a run over a valid configuration.
-/

namespace BufferFormat

namespace Text

/-- What is trimmed to nothing holds blanks only. -/
theorem trimChars_eq_nil_iff (cs : List Char) :
    trimChars cs = [] ↔ ∀ c ∈ cs, isBlank c = true := by
  rw [trimChars_eq_rdropWhile, List.rdropWhile_eq_nil_iff]
  constructor
  · intro h c hc
    -- A character that is no blank would be kept by the first cut and then be a blank.
    by_contra hblank
    have hmem : c ∈ cs.takeWhile isBlank ++ cs.dropWhile isBlank := by
      rw [List.takeWhile_append_dropWhile]
      exact hc
    rcases List.mem_append.mp hmem with htake | hdrop
    · exact hblank (List.mem_takeWhile_imp htake)
    · exact hblank (h c hdrop)
  · exact fun h c hc => h c ((List.dropWhile_suffix isBlank).mem hc)

end Text

/-! ## Conversion -/

/-- Looking up a label fails if no encoding has it, and in one way. -/
theorem Encoding.lookup_eq_error_iff (label : String) (fault : Fault) :
    lookup label = .error fault ↔
      Config.isKnownEncoding label = false ∧ fault = .unknownEncoding (Text.trim label) := by
  unfold Config.isKnownEncoding lookup
  cases Label.resolve? (Text.trimChars label.toList) with
  | some e => exact ⟨nofun, nofun⟩
  | none => simp only [Except.error.injEq, true_and, eq_comm]

/-- A text cannot be encoded if no encoding has the label, or if the encoding cannot hold it. -/
theorem encodeText_eq_error_iff (text label : String) (fault : Fault) :
    encodeText text label = .error fault ↔
      Encoding.lookup label = .error fault ∨
        (∃ e, Encoding.lookup label = .ok e ∧ e.encode? text.toList = none) ∧
          fault = .unencodable label := by
  unfold encodeText
  cases Encoding.lookup label with
  | error cause =>
      simp only [bind, Except.bind, Except.error.injEq, reduceCtorEq, false_and, exists_false,
        or_false]
  | ok e =>
      simp only [bind, Except.bind, reduceCtorEq, false_or, Except.ok.injEq, exists_eq_left']
      cases e.encode? text.toList with
      | some bytes => simp only [reduceCtorEq, false_and]
      | none => simp only [Except.error.injEq, true_and, eq_comm]

/-- Bytes cannot be decoded if no encoding has the label, or if they are malformed in it. -/
theorem decodeBytes_eq_error_iff (bytes : List UInt8) (label : String) (fault : Fault) :
    decodeBytes bytes label = .error fault ↔
      Encoding.lookup label = .error fault ∨
        (∃ e, Encoding.lookup label = .ok e ∧ e.decode? bytes = none) ∧
          fault = .undecodable label := by
  unfold decodeBytes
  cases Encoding.lookup label with
  | error cause =>
      simp only [bind, Except.bind, Except.error.injEq, reduceCtorEq, false_and, exists_false,
        or_false]
  | ok e =>
      simp only [bind, Except.bind, reduceCtorEq, false_or, Except.ok.injEq, exists_eq_left']
      cases e.decode? bytes with
      | some text => simp only [reduceCtorEq, false_and]
      | none => simp only [Except.error.injEq, true_and, eq_comm]

/-! ## Stages -/

/-- The label that the host reports or, where that tells nothing, the one that the text declares. -/
def View.declaredLabel? (view : View) : Option String :=
  (reportedLabel? view.buffer.encoding).or
    ((Declaration.inText? view.buffer.text.toList).map String.ofList)

/-- The default is used only where there is no such label. -/
theorem View.negotiate_eq (view : View) (default : String) :
    negotiate view.buffer.encoding view.buffer.text.toList default =
      view.declaredLabel?.getD default := by
  unfold negotiate declaredLabel?
  cases reportedLabel? view.buffer.encoding with
  | some label => rfl
  | none => cases Declaration.inText? view.buffer.text.toList <;> rfl

/-- A computation without a second fault fails where its first step does. -/
theorem bind_ok_eq_error_iff {α β : Type} (x : Except Fault α) (f : α → β) (fault : Fault) :
    (x >>= fun a => .ok (f a)) = .error fault ↔ x = .error fault := by
  cases x with
  | error cause => simp only [bind, Except.bind, Except.error.injEq]
  | ok a => exact ⟨nofun, nofun⟩

/-- Building a request fails where the buffer cannot be encoded. -/
theorem prepare_eq_error_iff (w : World) (config : Config) (platform : Platform) (view : View)
    (mode : Mode) (fault : Fault) :
    prepare w config platform view mode = .error fault ↔
      encodeText view.buffer.text (view.declaredLabel?.getD config.defaultEncoding) =
        .error fault := by
  rw [prepare, bind_ok_eq_error_iff, View.negotiate_eq]

/-- A verdict fails where the output of a change cannot be decoded. -/
theorem verdict_eq_error_iff (outcome : Outcome) (ctx : Context) (file : Option Path)
    (fault : Fault) :
    verdict outcome ctx file = .error fault ↔
      outcome.success = true ∧ countsAsChange outcome ctx = true ∧
        decodeBytes outcome.stdout ctx.encoding = .error fault := by
  cases hok : outcome.success with
  | false =>
      rw [verdict, hok]
      exact iff_of_false (fun h => by cases h) fun h => by cases h.1
  | true =>
      cases hchange : countsAsChange outcome ctx with
      | false =>
          rw [verdict, hok, hchange]
          exact iff_of_false (fun h => by cases h) fun h => by cases h.2.1
      | true =>
          rw [verdict_of_change outcome ctx file hok hchange]
          cases ctx.mode with
          | diff =>
              simp only [bind_ok_eq_error_iff, renderDiff, true_and]
          | format => simp only [bind_ok_eq_error_iff, true_and]

/-! ## Valid configurations -/

/-- What validation has found out about a configuration. -/
theorem Config.of_defect?_eq_none {config : Config} (h : config.defect? = none) :
    (∃ c ∈ config.command.toList, Text.isBlank c = false) ∧ config.lineLength ≠ some 0 ∧
      isKnownEncoding config.defaultEncoding = true := by
  unfold defect? at h
  split at h
  · cases h
  rename_i hcommand
  split at h
  · cases h
  rename_i hlength
  split at h
  · cases h
  split at h
  · cases h
  split at h
  · cases h
  rename_i hlabel
  refine ⟨?_, hlength, ?_⟩
  · by_contra hblank
    refine hcommand (String.isEmpty_iff.mpr ?_)
    have htrim := (Text.trimChars_eq_nil_iff config.command.toList).mpr fun c hc =>
      Bool.not_eq_false _ ▸ fun hnot => hblank ⟨c, hc, hnot⟩
    rw [Text.trim, htrim]
  · rw [Bool.not_eq_true', Bool.not_eq_false] at hlabel
    exact hlabel

/-- Arguments that the formatter can be started with: a command that is not blank, the marker of
    standard input, what the mode adds, and then the options, of which a line length is at least
    one. -/
structure Formatter.WellFormed (config : Config) (file : Option Path) (mode : Mode)
    (args : List String) : Prop where
  command : ∃ c ∈ config.command.toList, Text.isBlank c = false
  lineLength : ∀ n ∈ config.lineLength, 1 ≤ n.toNat
  args_eq : args = config.command :: stdinMarker :: (mode.extraArgs ++
    (option "-l" (config.lineLength.map fun n => toString n.toNat) ++
      optionsFor { config with lineLength := none } file))

/-- A valid configuration gives well-formed arguments. -/
theorem Config.wellFormed_commandLine {config : Config} (h : config.defect? = none)
    (file : Option Path) (mode : Mode) :
    Formatter.WellFormed config file mode (Formatter.commandLine config file mode.extraArgs) := by
  rcases of_defect?_eq_none h with ⟨hcommand, hlength, _⟩
  refine ⟨hcommand, fun n hn => ?_, ?_⟩
  · refine Nat.one_le_iff_ne_zero.mpr fun hzero => hlength ?_
    rw [Option.mem_def.mp hn, UInt32.toNat_inj.mp (hzero.trans UInt32.toNat_zero.symm)]
  · simp only [Formatter.commandLine, Formatter.optionsFor, Formatter.option, Option.map_none,
      List.nil_append, List.append_assoc]

/-- All that can stop a run over a valid configuration. A request is built with well-formed
    arguments, or the label of the buffer is unknown, or the buffer cannot be encoded. The label is
    unknown exactly if the one that the host reports or the text declares is, so the default never
    is. Once a request was built, the only fault that is left is output of a successful change that
    is malformed in the encoding of the request. -/
theorem MemoryHost.faults_of_valid (w : World) (config : Config) (platform : Platform)
    (h : MemoryHost) (mode : Mode) (hvalid : config.defect? = none) :
    let label := h.view.declaredLabel?.getD config.defaultEncoding
    ((∃ prepared, prepare w config platform h.view mode = .ok prepared ∧
        prepared.encoding = label ∧
        Formatter.WellFormed config h.file mode prepared.request.args) ∨
      prepare w config platform h.view mode = .error (.unknownEncoding (Text.trim label)) ∨
      prepare w config platform h.view mode = .error (.unencodable label)) ∧
    ((∃ found, prepare w config platform h.view mode = .error (.unknownEncoding found)) ↔
      ∃ declared, h.view.declaredLabel? = some declared ∧
        Config.isKnownEncoding declared = false) ∧
    ∀ prepared, prepare w config platform h.view mode = .ok prepared →
      ∀ (outcome : Outcome) (fault : Fault),
        (h.settle (verdict outcome (prepared.context config mode) h.file)).2 = .error fault ↔
          fault = .undecodable prepared.encoding ∧ outcome.status = 0 ∧
            countsAsChange outcome (prepared.context config mode) = true ∧
            ∃ e, Encoding.lookup prepared.encoding = .ok e ∧ e.decode? outcome.stdout = none := by
  intro label
  have herror := prepare_eq_error_iff w config platform h.view mode
  refine ⟨?_, ?_, fun prepared hprepared outcome fault => ?_⟩
  · cases hprepare : prepare w config platform h.view mode with
    | ok prepared =>
        refine Or.inl ⟨prepared, rfl, ?_, ?_⟩
        · rw [encoding_of_prepare w config platform h.view mode prepared hprepare,
            View.negotiate_eq]
        · rcases (prepare_eq_ok_iff _ _ _ _ _ _).mp hprepare with ⟨input, _, rfl⟩
          exact Config.wellFormed_commandLine hvalid _ _
    | error fault =>
        rcases (encodeText_eq_error_iff _ _ _).mp ((herror fault).mp hprepare) with
          hlookup | ⟨_, rfl⟩
        · rcases (Encoding.lookup_eq_error_iff _ _).mp hlookup with ⟨_, rfl⟩
          exact Or.inr (Or.inl rfl)
        · exact Or.inr (Or.inr rfl)
  · simp only [herror, encodeText_eq_error_iff, Encoding.lookup_eq_error_iff, reduceCtorEq,
      and_false, or_false, exists_and_left]
    constructor
    · rintro ⟨hunknown, _⟩
      -- The default is known, so the label is not the default.
      cases hdeclared : h.view.declaredLabel? with
      | some declared =>
          rw [hdeclared] at hunknown
          exact ⟨declared, rfl, hunknown⟩
      | none =>
          rw [hdeclared, Option.getD_none, (Config.of_defect?_eq_none hvalid).2.2] at hunknown
          cases hunknown
    · rintro ⟨declared, hdeclared, hunknown⟩
      rw [hdeclared]
      exact ⟨hunknown, _, rfl⟩
  · -- A label with which a buffer was encoded can be looked up.
    have hknown : ∀ cause, Encoding.lookup prepared.encoding ≠ .error cause := by
      intro cause hcause
      have hfault := (encodeText_eq_error_iff h.view.buffer.text _ _).mpr (Or.inl hcause)
      rw [encoding_of_prepare w config platform h.view mode prepared hprepared,
        View.negotiate_eq] at hfault
      rw [(herror cause).mpr hfault] at hprepared
      cases hprepared
    have hsettle : (h.settle (verdict outcome (prepared.context config mode) h.file)).2 =
        .error fault ↔ verdict outcome (prepared.context config mode) h.file = .error fault := by
      cases verdict outcome (prepared.context config mode) h.file with
      | ok action => exact ⟨nofun, nofun⟩
      | error cause => simp only [settle, Except.error.injEq]
    rw [hsettle, verdict_eq_error_iff, decodeBytes_eq_error_iff]
    simp only [Prepared.context, hknown, false_or, Outcome.success, beq_iff_eq]
    constructor
    · rintro ⟨hstatus, hchange, hmalformed, hfault⟩
      exact ⟨hfault, hstatus, hchange, hmalformed⟩
    · rintro ⟨hfault, hstatus, hchange, hmalformed⟩
      exact ⟨hstatus, hchange, hmalformed, hfault⟩

/-- A configuration whose default has blanks around it. -/
def paddedConfig : Config := { defaultEncoding := " UTF8\n" }

/-- A buffer whose label is that default, and output that is malformed in UTF-8. -/
theorem MemoryHost.faults_of_valid_utf8 :
    paddedConfig.defect? = none ∧
      ∃ prepared, prepare (.holding [] []) paddedConfig .unix ⟨⟨"x", some "Undefined"⟩, none, []⟩
          .diff = .ok prepared ∧
        (MemoryHost.settle { buffer := ⟨"x", some "Undefined"⟩ }
          (verdict ⟨0, [0xFF], Utf8.encode "reformatted -".toList⟩
            (prepared.context paddedConfig .diff) none)).2 = .error (.undecodable " UTF8\n") := by
  have hvalid : paddedConfig.defect? = none := by rfl
  rcases faults_of_valid (.holding [] []) paddedConfig .unix
    { buffer := ⟨"x", some "Undefined"⟩ } .diff hvalid with ⟨_, _, hfault⟩
  have hinput : encodeText "x" " UTF8\n" = .ok [0x78] := by rfl
  have hlookup : Encoding.lookup " UTF8\n" = .ok .utf8 := by rfl
  have hchange : ∀ ctx : Context, ctx.markers = {} →
      countsAsChange ⟨0, [0xFF], Utf8.encode "reformatted -".toList⟩ ctx = true := by
    intro ctx hmarkers
    rw [countsAsChange, hmarkers]
    rfl
  rcases exists_prepare (.holding [] []) paddedConfig .unix ⟨⟨"x", some "Undefined"⟩, none, []⟩
    .diff [0x78] hinput with ⟨prepared, hprepared, _⟩
  have hlabel : prepared.encoding = " UTF8\n" := encoding_of_prepare _ _ _ _ _ _ hprepared
  refine ⟨hvalid, prepared, hprepared, (hfault prepared hprepared _ _).mpr ?_⟩
  rw [hlabel]
  exact ⟨rfl, rfl, hchange _ rfl, .utf8, hlookup, by rfl⟩

end BufferFormat
