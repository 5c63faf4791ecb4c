import BufferFormat.Proofs.Host.Memory
import BufferFormat.Proofs.Host.Writing

/-!
# What is formatted stays as it is

A formatter that is stable on its own output leaves a buffer alone that it has formatted once. The
formatter works on bytes and the buffer holds text, so this is not a property of the formatter
alone. What it printed is decoded and kept as text, and for the next call the label is negotiated
anew and the text is encoded again. Only where that leads back to the very same bytes does the
formatter see its own output.

In an exact encoding it does. The formatter then says that nothing is to be done, or it says nothing
and prints what it read; both count as no change. Such a call leaves the text as it was, so the next
one finds the same text, and so do all others.

## Main definitions

* `Formatter.Computes`: A formatter whose answer depends on its input alone.
* `Formatter.Reformats`, `Formatter.Stable`: A formatter that finds nothing to do in its own output.
* `Buffer.Settled`: A buffer that holds such an output.
* `MemoryHost.Call.Formats`, `FileHost.Act.Formats`: Calls that format with one configuration.

## Theorems

* `attemptWith_of_replace`: A run that came to a replacement settles the buffer.
* `attemptWith_of_settled`: A run over a settled buffer is fed with the output and changes nothing.
* `MemoryHost.after_of_settled`, `FileHost.after_of_settled`: Neither do any number of calls.
* `unchanged_after_reformatted`: After a call that replaced the text, none does.
-/

namespace BufferFormat

/-! ## Stable formatters -/

namespace Formatter

/-- A formatter whose answer depends on its input alone. -/
def Computes (f : List UInt8 → Outcome) (start : Starter) : Prop :=
  ∀ r, ∃ invocation, start r = .ok (invocation, f r.input)

/-- A run of the formatter on some bytes comes to a replacement. -/
def Reformats (f : List UInt8 → Outcome) (markers : Markers) (label : String)
    (input : List UInt8) : Prop :=
  ∃ text, CallsFor (f input) ⟨label, input, .format, markers⟩ none (.replace text)

/-- A formatter that finds nothing to do in its own output: it says so, or it says nothing and
    prints what it read. -/
def Stable (f : List UInt8 → Outcome) (markers : Markers) (label : String) : Prop :=
  ∀ input, Reformats f markers label input →
    let output := (f input).stdout
    (f output).success = true ∧
      (classify (f output).stderr markers = .unchanged ∨
        classify (f output).stderr markers = .unrecognized ∧ (f output).stdout = output)

end Formatter

/-- A buffer that reports a label and holds, by that label, what a formatter printed when it came to
    a replacement. -/
structure Buffer.Settled (f : List UInt8 → Outcome) (markers : Markers) (label : String)
    (output : List UInt8) (b : Buffer) : Prop where
  reported : b.encoding = some label
  printed : ∃ input, Formatter.Reformats f markers label input ∧ (f input).stdout = output
  decoded : decodeBytes output label = .ok b.text

section Stable

-- As for single calls, what a request needs is known by its own lemma and need not be evaluated.
attribute [local irreducible] prepare

section Run

variable {f : List UInt8 → Outcome} {start : Formatter.Starter} {config : Config} {label : String}
  {e : Encoding}

/-- A stable formatter keeps what it printed, under whatever spelling of the label. -/
theorem Formatter.Stable.callsFor_keep {markers : Markers} (h : Formatter.Stable f markers label)
    {input : List UInt8} (hinput : Formatter.Reformats f markers label input) (used : String)
    (file : Option Path) :
    CallsFor (f (f input).stdout) ⟨used, (f input).stdout, .format, markers⟩ file .keep := by
  rcases h input hinput with ⟨hok, hunchanged | ⟨hunrecognized, hsame⟩⟩
  · refine .keep hok ?_
    rw [countsAsChange, hunchanged]
  · refine .keep hok ?_
    rw [countsAsChange, hunrecognized]
    change ((f (f input).stdout).stdout != (f input).stdout) = false
    rw [hsame, bne_self_eq_false]

/-- A run that came to a replacement settles the buffer on what the formatter printed. -/
theorem attemptWith_of_replace (w : World) (platform : Platform) (view : View)
    (hf : Formatter.Computes f start) (hreported : view.buffer.encoding = some label)
    (hl : Encoding.lookup label = .ok e) {text : String}
    (haction : (attemptWith start w config platform view .format).action = .ok (.replace text)) :
    ∃ prepared, prepare w config platform view .format = .ok prepared ∧
      Buffer.Settled f config.markers label (f prepared.request.input).stdout
        ⟨text, some label⟩ := by
  rcases (attemptWith_action_eq_ok_iff _ _ _ _ _ _ _).mp haction with
    ⟨prepared, outcome, ⟨hprepared, invocation, hstart⟩, hcalls⟩
  rcases hf prepared.request with ⟨invocation', hanswer⟩
  obtain rfl : f prepared.request.input = outcome := by
    rw [hanswer] at hstart
    cases hstart
    rfl
  cases hcalls with
  | replace _ hok hchange _ htext =>
      -- The label that was negotiated is the one that is reported, but for blanks.
      have hlabel := encoding_of_prepare w config platform view .format prepared hprepared
      rw [hreported, negotiate_of_lookup label e hl] at hlabel
      have hd : decodeBytes (f prepared.request.input).stdout label = .ok text := by
        rw [← decodeBytes_trim label e hl, ← hlabel]
        exact htext
      exact ⟨prepared, hprepared, rfl,
        ⟨prepared.request.input, ⟨text, .replace text hok hchange rfl hd⟩, rfl⟩, hd⟩

/-- A run over a settled buffer is fed with exactly what the formatter printed, and it changes
    nothing. -/
theorem attemptWith_of_settled (w : World) (platform : Platform) (view : View)
    (hf : Formatter.Computes f start) (hstable : Formatter.Stable f config.markers label)
    (hl : Encoding.lookup label = .ok e) (he : e.IsExact) {output : List UInt8}
    (hs : view.buffer.Settled f config.markers label output) :
    (attemptWith start w config platform view .format).action = .ok .keep ∧
      ∃ prepared, prepare w config platform view .format = .ok prepared ∧
        prepared.request.input = output := by
  rcases hs.printed with ⟨input, hinput, rfl⟩
  rcases prepare_of_reported view label e (f input).stdout hs.reported hl he hs.decoded w config
    platform .format with ⟨prepared, hprepared, _, hfed⟩
  refine ⟨?_, prepared, hprepared, hfed⟩
  rcases hf prepared.request with ⟨invocation, hanswer⟩
  refine (attemptWith_action_eq_ok_iff _ _ _ _ _ _ _).mpr
    ⟨prepared, f prepared.request.input, ⟨hprepared, invocation, hanswer⟩, ?_⟩
  rw [hfed, Prepared.context, hfed]
  exact hstable.callsFor_keep hinput prepared.encoding view.file

end Run

/-! ## A host in memory -/

namespace MemoryHost

/-- A call that formats the buffer with a configuration and a formatter. -/
structure Call.Formats (f : List UInt8 → Outcome) (config : Config) (c : Call) : Prop where
  mode_eq : c.mode = .format
  config_eq : c.config = config
  computes : Formatter.Computes f c.start

section Settled

variable {f : List UInt8 → Outcome} {config : Config} {label : String} {e : Encoding}
  {h : MemoryHost} {c : Call} {output : List UInt8}

/-- A call that replaced the text settles the buffer. -/
theorem settled_of_reformatted (hformats : c.Formats f config)
    (hreported : h.buffer.encoding = some label) (hl : Encoding.lookup label = .ok e)
    (hresult : (h.call c).2 = .ok .reformatted) :
    ∃ prepared, prepare c.world config c.platform h.view .format = .ok prepared ∧
      (h.call c).1.buffer.Settled f config.markers label (f prepared.request.input).stdout := by
  rcases hformats with ⟨hmode, rfl, hf⟩
  rw [call, runWith, hmode] at hresult ⊢
  cases haction : (attemptWith c.start c.world c.config c.platform h.view .format).action with
  | error fault =>
      rw [haction] at hresult
      cases hresult
  | ok action =>
      rw [haction] at hresult
      -- Only a replacement is told as one.
      cases action with
      | reject status message => cases hresult
      | keep => cases hresult
      | showDiff title text => cases hresult
      | replace text =>
          rcases attemptWith_of_replace c.world c.platform h.view hf hreported hl haction with
            ⟨prepared, hprepared, hs⟩
          exact ⟨prepared, hprepared, hreported, hs.printed, hs.decoded⟩

/-- A call over a settled buffer is fed with what the formatter printed, and only says that there is
    nothing to do. -/
theorem call_of_settled (hformats : c.Formats f config)
    (hstable : Formatter.Stable f config.markers label) (hl : Encoding.lookup label = .ok e)
    (he : e.IsExact) (hs : h.buffer.Settled f config.markers label output) :
    h.call c = (h.notify alreadyFormatted, .ok .unchanged) ∧
      ∃ prepared, prepare c.world config c.platform h.view .format = .ok prepared ∧
        prepared.request.input = output := by
  rcases hformats with ⟨hmode, rfl, hf⟩
  rcases attemptWith_of_settled c.world c.platform h.view hf hstable hl he hs with
    ⟨haction, hfed⟩
  refine ⟨?_, hfed⟩
  rw [call, runWith, hmode, haction]
  rfl

/-- Any number of calls leave a settled buffer as it is, and replace nothing. -/
theorem after_of_settled (hstable : Formatter.Stable f config.markers label)
    (hl : Encoding.lookup label = .ok e) (he : e.IsExact) (calls : List Call)
    (hcalls : ∀ c ∈ calls, c.Formats f config)
    (hs : h.buffer.Settled f config.markers label output) :
    (h.after calls).buffer = h.buffer ∧ (h.after calls).replacements = h.replacements := by
  induction calls generalizing h with
  | nil => exact ⟨rfl, rfl⟩
  | cons c calls ih =>
      rw [List.forall_mem_cons] at hcalls
      rcases call_of_settled hcalls.1 hstable hl he hs with ⟨hcall, _⟩
      rw [after_cons, hcall]
      -- A message does not touch the buffer, so it is still settled.
      exact ih hcalls.2 hs

end Settled

end MemoryHost

/-! ## A host backed by a file -/

namespace FileHost

/-- An act that formats the buffer with a configuration and a formatter. -/
structure Act.Formats (f : List UInt8 → Outcome) (config : Config) (platform : Platform) (a : Act) :
    Prop where
  event_eq : a.event = .run config platform .format
  computes : Formatter.Computes f a.start

section Settled

variable {f : List UInt8 → Outcome} {config : Config} {platform : Platform} {label : String}
  {e : Encoding} {h : FileHost} {w : World} {a : Act} {output : List UInt8}

/-- A run is told as a replacement only if the text was to be replaced and was. -/
theorem runUnder_of_reformatted {start : Formatter.Starter} {r : Refusals} {mode : Mode}
    (hresult : (h.runUnder start r w config platform mode).result = .ok .reformatted) :
    ∃ text, (attemptWith start w config platform (h.view w) mode).action = .ok (.replace text) ∧
      (h.runUnder start r w config platform mode).host = { h with text, replaced := true } := by
  cases haction : (attemptWith start w config platform (h.view w) mode).action with
  | error fault =>
      rcases runUnder_of_error start r h w config platform mode fault haction with ⟨_, hrun⟩
      rw [hrun] at hresult
      cases hresult
  | ok action =>
      rcases runUnder_of_ok start r h w config platform mode action haction with ⟨_, hrun⟩
      rw [hrun] at hresult ⊢
      cases action with
      | reject status message => cases hresult
      | keep => cases hresult
      | showDiff title text =>
          rw [performUnder] at hresult
          cases hpanel : h.openPanelUnder r title text with
          | error fault =>
              rw [hpanel] at hresult
              cases hresult
          | ok effects =>
              rw [hpanel] at hresult
              cases hresult
      | replace text =>
          rw [performUnder] at hresult ⊢
          rcases replaceTextUnder_cases r h w text with ⟨fault, hstep⟩ | ⟨w', effects, _, hstep⟩
          · rw [hstep] at hresult
            cases hresult
          · rw [hstep]
            exact ⟨text, rfl, rfl⟩

/-- An act that replaced the text settles the buffer. -/
theorem settled_of_reformatted (hformats : a.Formats f config platform)
    (hl : Encoding.lookup h.encoding = .ok e)
    (hresult : (h.act a).result = .ok (some .reformatted)) :
    ∃ prepared, prepare a.world config platform (h.view a.world) .format = .ok prepared ∧
      Buffer.Settled f config.markers h.encoding (f prepared.request.input).stdout
        ⟨(h.act a).host.text, some (h.act a).host.encoding⟩ := by
  have hrun : (h.runUnder a.start a.refusals a.world config platform .format).result =
      .ok .reformatted := by
    rw [act, hformats.event_eq] at hresult
    change Except.map some _ = _ at hresult
    generalize (h.runUnder a.start a.refusals a.world config platform .format).result = told
      at hresult ⊢
    cases told with
    | error fault => cases hresult
    | ok applied =>
        cases hresult
        rfl
  rcases runUnder_of_reformatted hrun with ⟨text, haction, hhost⟩
  rcases attemptWith_of_replace a.world platform (h.view a.world) hformats.computes rfl hl haction
    with ⟨prepared, hprepared, hs⟩
  refine ⟨prepared, hprepared, ?_⟩
  have hact : (h.act a).host = { h with text, replaced := true } := by
    rw [act, hformats.event_eq]
    exact hhost
  rw [hact]
  exact hs

/-- An act over a settled buffer is fed with what the formatter printed, and leaves host and world
    as they are. -/
theorem act_of_settled (hformats : a.Formats f config platform)
    (hstable : Formatter.Stable f config.markers label) (hl : Encoding.lookup label = .ok e)
    (he : e.IsExact)
    (hs : Buffer.Settled f config.markers label output ⟨h.text, some h.encoding⟩) :
    (∃ effects, h.act a = ⟨h, a.world, effects, .ok (some .unchanged)⟩) ∧
      ∃ prepared, prepare a.world config platform (h.view a.world) .format = .ok prepared ∧
        prepared.request.input = output := by
  rcases attemptWith_of_settled a.world platform (h.view a.world) hformats.computes hstable hl he hs
    with ⟨haction, hfed⟩
  refine ⟨?_, hfed⟩
  rcases runUnder_of_ok a.start a.refusals h a.world config platform .format .keep haction with
    ⟨started, hrun⟩
  rw [act, hformats.event_eq]
  simp only [hrun]
  exact ⟨_, rfl⟩

/-- Any number of acts leave a host with a settled buffer as it is, and so do they leave every file
    that nobody else writes. -/
theorem after_of_settled (hstable : Formatter.Stable f config.markers label)
    (hl : Encoding.lookup label = .ok e) (he : e.IsExact) (acts : List Act)
    (hacts : ∀ a ∈ acts, a.Formats f config platform)
    (hs : Buffer.Settled f config.markers label output ⟨h.text, some h.encoding⟩) :
    (h.after w acts).1 = h ∧ ∀ path, h.Undisturbed path w acts →
      (h.after w acts).2.readFile path = w.readFile path := by
  induction acts generalizing w with
  | nil => exact ⟨rfl, fun _ _ => rfl⟩
  | cons a acts ih =>
      rw [List.forall_mem_cons] at hacts
      rcases act_of_settled hacts.1 hstable hl he hs with ⟨⟨effects, hact⟩, _⟩
      rcases ih (w := a.world) hacts.2 with ⟨hhost, hfile⟩
      refine ⟨?_, fun path hquiet => ?_⟩
      · rw [after, hact]
        exact hhost
      · rw [Undisturbed, hact] at hquiet
        rw [after, hact]
        exact (hfile path hquiet.2).trans hquiet.1

end Settled

end FileHost

/-! ## Both hosts -/

/-- A formatter that depends on its input alone and finds nothing to do in its own output formats a
    buffer once. After a call that replaced the text, every further call with the same configuration
    is fed with exactly what the formatter printed then, and finds nothing to do. The text, the
    number of replacements and the file stay as the first call left them. -/
theorem unchanged_after_reformatted (f : List UInt8 → Outcome) (config : Config) (label : String)
    (e : Encoding) (hl : Encoding.lookup label = .ok e) (he : e.IsExact)
    (hstable : Formatter.Stable f config.markers label) :
    (∀ (h : MemoryHost) (first : MemoryHost.Call), h.buffer.encoding = some label →
      first.Formats f config → (h.call first).2 = .ok .reformatted →
      let h' := (h.call first).1
      ∃ prepared, prepare first.world config first.platform h.view .format = .ok prepared ∧
        ∀ later : List MemoryHost.Call, (∀ c ∈ later, c.Formats f config) →
          (h'.after later).buffer = h'.buffer ∧
          (h'.after later).replacements = h'.replacements ∧
          ∀ c : MemoryHost.Call, c.Formats f config →
            ((h'.after later).call c).2 = .ok .unchanged ∧
            ∃ again, prepare c.world config c.platform (h'.after later).view .format = .ok again ∧
              again.request.input = (f prepared.request.input).stdout) ∧
    ∀ (platform : Platform) (h : FileHost) (first : FileHost.Act), h.encoding = label →
      first.Formats f config platform → (h.act first).result = .ok (some .reformatted) →
      let h' := (h.act first).host
      let w' := (h.act first).world
      ∃ prepared, prepare first.world config platform (h.view first.world) .format = .ok prepared ∧
        ∀ later : List FileHost.Act, (∀ a ∈ later, a.Formats f config platform) →
          (h'.after w' later).1 = h' ∧
          (∀ path, h'.Undisturbed path w' later →
            (h'.after w' later).2.readFile path = w'.readFile path) ∧
          ∀ a : FileHost.Act, a.Formats f config platform →
            (h'.act a).result = .ok (some .unchanged) ∧ (h'.act a).world = a.world ∧
            ∃ again, prepare a.world config platform (h'.view a.world) .format = .ok again ∧
              again.request.input = (f prepared.request.input).stdout := by
  constructor
  · intro h first hreported hfirst hresult h'
    rcases MemoryHost.settled_of_reformatted hfirst hreported hl hresult with
      ⟨prepared, hprepared, hs⟩
    refine ⟨prepared, hprepared, fun later hlater => ?_⟩
    rcases MemoryHost.after_of_settled hstable hl he later hlater hs with ⟨hbuffer, hcount⟩
    refine ⟨hbuffer, hcount, fun c hc => ?_⟩
    rcases MemoryHost.call_of_settled hc hstable hl he (hbuffer.symm ▸ hs) with ⟨hcall, hfed⟩
    exact ⟨congrArg Prod.snd hcall, hfed⟩
  · rintro platform h first rfl hfirst hresult h' w'
    rcases FileHost.settled_of_reformatted hfirst hl hresult with ⟨prepared, hprepared, hs⟩
    refine ⟨prepared, hprepared, fun later hlater => ?_⟩
    rcases FileHost.after_of_settled (w := w') hstable hl he later hlater hs with ⟨hhost, hfile⟩
    refine ⟨hhost, hfile, fun a ha => ?_⟩
    rcases FileHost.act_of_settled ha hstable hl he hs with ⟨⟨effects, hact⟩, hfed⟩
    exact ⟨congrArg FileHost.Step.result hact, congrArg FileHost.Step.world hact, hfed⟩

end Stable

/-- A formatter that has one thing to correct, and otherwise prints what it reads. -/
def Formatter.correcting (input : List UInt8) : Outcome :=
  if input = [0x78, 0xE9] then ⟨0, [0x79, 0xE9], Utf8.encode "reformatted".toList⟩
  else ⟨0, input, []⟩

theorem Formatter.computes_computing (f : List UInt8 → Outcome) : Computes f (computing f) :=
  fun _ => ⟨_, rfl⟩

/-- What it printed it prints again, and says nothing. -/
theorem Formatter.stable_correcting (label : String) :
    Formatter.Stable Formatter.correcting {} label := by
  intro input hinput
  by_cases h : input = [0x78, 0xE9]
  · subst h
    exact ⟨rfl, Or.inr ⟨rfl, rfl⟩⟩
  · -- Nothing else is changed, so nothing else can be an input that was.
    rcases hinput with ⟨text, hcalls⟩
    cases hcalls with
    | replace _ _ hchange _ _ =>
        have hsilent : classify [] {} = .unrecognized := by rfl
        simp only [Formatter.correcting, if_neg h, countsAsChange, hsilent, outputDiffers,
          bne_self_eq_false, Bool.false_eq_true] at hchange

/-- A call with this formatter. -/
def MemoryHost.correctingCall : MemoryHost.Call :=
  ⟨⟨⟨[]⟩, [], .empty, fun _ => none⟩, {}, .unix, .format,
    Formatter.computing Formatter.correcting⟩

/-- An act with it, that finds one file with certain contents. -/
def FileHost.correctingAct (data : List UInt8) : FileHost.Act :=
  ⟨.holding ["a.py"] data, Formatter.computing Formatter.correcting, .none, .run {} .unix .format⟩

/-- An act that leaves the host and the world it finds may be repeated, and nobody else writes in
    between. -/
theorem FileHost.undisturbed_replicate (path : Path) {h : FileHost} {w : World} {a : FileHost.Act}
    (ha : a.world = w) (hhost : (h.act a).host = h) (hworld : (h.act a).world = w) (n : Nat) :
    h.Undisturbed path w (List.replicate n a) := by
  induction n with
  | zero => trivial
  | succ n ih =>
      rw [List.replicate_succ, Undisturbed, hhost, hworld, ha]
      exact ⟨rfl, ih⟩

/-- A buffer in Latin-1 that is formatted once, and then any number of times: in memory, and on a
    file, which holds the first output ever after. -/
theorem unchanged_after_reformatted_latin1 :
    (let h : MemoryHost := ⟨⟨"xé", some " Latin_1\n"⟩, none, [], [], [], 0⟩
      let h' := (h.call MemoryHost.correctingCall).1
      (h.call MemoryHost.correctingCall).2 = .ok .reformatted ∧
        ∀ n, (h'.after (List.replicate n MemoryHost.correctingCall)).buffer =
            ⟨"yé", some " Latin_1\n"⟩ ∧
          ((h'.after (List.replicate n MemoryHost.correctingCall)).call
            MemoryHost.correctingCall).2 = .ok .unchanged) ∧
    let h : FileHost := { FileHost.latin1 with text := "yé", replaced := true }
    let w := World.holding ["a.py"] [0x79, 0xE9]
    (∃ effects, FileHost.latin1.act (FileHost.correctingAct [0x78, 0xE9]) =
        ⟨h, w, effects, .ok (some .reformatted)⟩) ∧
      (h.act (FileHost.correctingAct [0x79, 0xE9])).result = .ok (some .unchanged) ∧
      ∀ n,
        let acts := List.replicate n (FileHost.correctingAct [0x79, 0xE9])
        (h.after w acts).1 = h ∧
          (h.after w acts).2.readFile ⟨"/a.py"⟩ = .ok [0x79, 0xE9] := by
  constructor
  · have hl : Encoding.lookup " Latin_1\n" = .ok (.codePage .windows1252) := by rfl
    have hfirst : (MemoryHost.call ⟨⟨"xé", some " Latin_1\n"⟩, none, [], [], [], 0⟩
        MemoryHost.correctingCall).2 = .ok .reformatted := by decide +kernel
    have hbuffer : (MemoryHost.call ⟨⟨"xé", some " Latin_1\n"⟩, none, [], [], [], 0⟩
        MemoryHost.correctingCall).1.buffer = ⟨"yé", some " Latin_1\n"⟩ := by decide +kernel
    have hc : MemoryHost.correctingCall.Formats Formatter.correcting {} :=
      ⟨rfl, rfl, Formatter.computes_computing _⟩
    rcases (unchanged_after_reformatted Formatter.correcting {} " Latin_1\n"
      (.codePage .windows1252) hl trivial (Formatter.stable_correcting _)).1 _ _ rfl hc hfirst with
      ⟨_, _, hlater⟩
    refine ⟨hfirst, fun n => ?_⟩
    rcases hlater (List.replicate n MemoryHost.correctingCall)
      fun c hmem => List.eq_of_mem_replicate hmem ▸ hc with ⟨hsame, _, hnext⟩
    exact ⟨hsame.trans hbuffer, (hnext _ hc).1⟩
  · intro h w
    have hl : Encoding.lookup "latin-1" = .ok (.codePage .windows1252) := by rfl
    have hacts : ∀ data, (FileHost.correctingAct data).Formats Formatter.correcting {} .unix :=
      fun _ => ⟨rfl, Formatter.computes_computing _⟩
    have hfirst : ∃ effects, FileHost.latin1.act (FileHost.correctingAct [0x78, 0xE9]) =
        ⟨h, w, effects, .ok (some .reformatted)⟩ :=
      FileHost.act_latin1 (Formatter.computing Formatter.correcting) (by decide +kernel)
    rcases hfirst with ⟨effects, hfirst⟩
    rcases (unchanged_after_reformatted Formatter.correcting {} "latin-1"
      (.codePage .windows1252) hl trivial (Formatter.stable_correcting _)).2 .unix
      FileHost.latin1 (FileHost.correctingAct [0x78, 0xE9]) rfl (hacts _) (by rw [hfirst]) with
      ⟨_, _, hlater⟩
    simp only [hfirst] at hlater
    -- One act tells what an act leaves, and so the next one finds the file as it was.
    rcases hlater [FileHost.correctingAct [0x79, 0xE9]]
      (List.forall_mem_singleton.mpr (hacts _)) with ⟨hhost, _, hnext⟩
    simp only [FileHost.after] at hhost
    rcases hnext _ (hacts [0x79, 0xE9]) with ⟨hunchanged, hworld, _⟩
    refine ⟨⟨effects, hfirst⟩, hunchanged, fun n => ?_⟩
    rcases hlater (List.replicate n (FileHost.correctingAct [0x79, 0xE9]))
      (fun a hmem => List.eq_of_mem_replicate hmem ▸ hacts _) with ⟨hsame, hfile, _⟩
    have hquiet := FileHost.undisturbed_replicate ⟨"/a.py"⟩ rfl hhost hworld n
    exact ⟨hsame, (hfile ⟨"/a.py"⟩ hquiet).trans (World.readFile_holding _)⟩

end BufferFormat
