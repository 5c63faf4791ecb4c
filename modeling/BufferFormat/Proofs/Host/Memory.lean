import BufferFormat.Host.Memory
import BufferFormat.Proofs.Session
import Mathlib.Control.Monad.Basic

/-!
# Runs over a host in memory

A host in memory is the one on which the whole effect of a run can be seen, because it keeps a
record of everything that was asked of it. The module says what a single call does, by its result,
and what any sequence of calls adds up to.

Calls share nothing but the host. Each comes with a world, a configuration and a platform of its
own, and with a formatter that may answer anything or fail, so nothing that one call met is
assumed of the next.

## Main definitions

* `MemoryHost.Call`: A call to format the buffer or to show a diff.
* `MemoryHost.call`, `MemoryHost.after`, `MemoryHost.results`: One call, and sequences of calls.
* `MemoryHost.Heard`: The outcome that a call had from its formatter.
* `MemoryHost.Effect`: What a call with a given result does to the host.
* `MemoryHost.Became`: What is left of that without what led to it.
* `MemoryHost.LastText`: The text that a sequence of calls leaves.

## Theorems

* `effect_call`: A call has the effect that its result says.
* `after_counts`, `after_surroundings`, `after_text`: What a sequence of calls adds up to.
* `calls_effects`: All of it together.
-/

namespace BufferFormat

namespace MemoryHost

-- Whether a request can be built is known by `prepare_eq_ok_iff`. Left open, it would be evaluated
-- down to the table of labels wherever a call is unfolded.
attribute [local irreducible] prepare

/-! ## Calls -/

/-- A call to format the buffer or to show a diff, with all that it meets. -/
structure Call where
  world : World
  config : Config
  platform : Platform
  mode : Mode
  /-- What the formatter does in this call. -/
  start : Formatter.Starter

/-- The host after a call, and the result of the call. -/
def call (h : MemoryHost) (c : Call) : MemoryHost × Except Fault Applied :=
  h.runWith c.start c.world c.config c.platform c.mode

/-- The host after a sequence of calls. -/
def after (h : MemoryHost) : List Call → MemoryHost
  | [] => h
  | c :: calls => (h.call c).1.after calls

/-- The results of a sequence of calls. -/
def results (h : MemoryHost) : List Call → List (Except Fault Applied)
  | [] => []
  | c :: calls => (h.call c).2 :: (h.call c).1.results calls

theorem after_cons (h : MemoryHost) (c : Call) (calls : List Call) :
    h.after (c :: calls) = (h.call c).1.after calls :=
  rfl

theorem results_cons (h : MemoryHost) (c : Call) (calls : List Call) :
    h.results (c :: calls) = (h.call c).2 :: (h.call c).1.results calls :=
  rfl

/-- A run with the formatter that the world holds is such a call. -/
theorem run_eq_call (h : MemoryHost) (w : World) (config : Config) (platform : Platform)
    (mode : Mode) :
    h.run w config platform mode =
      h.call ⟨w, config, platform, mode, (Formatter.start w · platform)⟩ :=
  rfl

/-- The label under which a call encodes the buffer and decodes what the formatter printed. -/
def labelFor (h : MemoryHost) (c : Call) : String :=
  negotiate h.buffer.encoding h.buffer.text.toList c.config.defaultEncoding

/-- The outcome that a call had from its formatter, fed with the buffer. -/
def Heard (h : MemoryHost) (c : Call) (outcome : Outcome) : Prop :=
  ∃ prepared, Answered c.start c.world c.config c.platform h.view c.mode prepared outcome

/-! ## One call -/

/-- What a call with a given result does to the host. A call that stopped does nothing at all, and
    every other one does exactly one thing. -/
def Effect (h : MemoryHost) (c : Call) (h' : MemoryHost) : Except Fault Applied → Prop
  | .error _ => h' = h
  | .ok .reformatted =>
    c.mode = .format ∧ ∃ outcome text, h.Heard c outcome ∧
      decodeBytes outcome.stdout (h.labelFor c) = .ok text ∧
      h' = { h with buffer := { h.buffer with text }, replacements := h.replacements + 1 }
  | .ok .diffShown =>
    c.mode = .diff ∧ ∃ outcome text, h.Heard c outcome ∧
      renderDiff outcome.stdout (h.labelFor c) = .ok text ∧
      h' = { h with panels := h.panels ++ [⟨diffLabel h.file, text, diffSyntax⟩] }
  | .ok .unchanged => h' = { h with notifications := h.notifications ++ [alreadyFormatted] }
  | .ok (.rejected status) =>
    ∃ outcome, h.Heard c outcome ∧ outcome.status = status ∧
      h' = { h with notifications := h.notifications ++ ["Black: " ++ outcome.stderrText] }

/-- A call has the effect that its result says. -/
theorem effect_call (h : MemoryHost) (c : Call) : h.Effect c (h.call c).1 (h.call c).2 := by
  rw [call, runWith]
  cases ha : (attemptWith c.start c.world c.config c.platform h.view c.mode).action with
  | error fault => exact rfl
  | ok action =>
    -- The host is touched only now, when nothing can fail any more.
    rcases (attemptWith_action_eq_ok_iff _ _ _ _ _ _ _).mp ha with
      ⟨prepared, outcome, hanswer, hcalls⟩
    have hheard : h.Heard c outcome := ⟨prepared, hanswer⟩
    have hlabel : prepared.encoding = h.labelFor c :=
      encoding_of_prepare _ _ _ _ _ _ hanswer.1
    cases hcalls with
    | reject hfail => exact ⟨outcome, hheard, rfl, rfl⟩
    | keep hok hsame => exact rfl
    | showDiff text hok hchange hmode htext =>
      rw [Prepared.context, hlabel] at htext
      exact ⟨hmode, outcome, text, hheard, htext, rfl⟩
    | replace text hok hchange hmode htext =>
      rw [Prepared.context, hlabel] at htext
      exact ⟨hmode, outcome, text, hheard, htext, rfl⟩

/-- Whether a result says that the buffer was replaced. -/
def replaces : Except Fault Applied → Bool
  | .ok .reformatted => true
  | _ => false

/-- Whether a result says that a diff was shown. -/
def shows : Except Fault Applied → Bool
  | .ok .diffShown => true
  | _ => false

/-- Whether a result says that there was nothing to do, or that the formatter refused. -/
def notifies : Except Fault Applied → Bool
  | .ok .unchanged | .ok (.rejected _) => true
  | _ => false

/-- What became of the host under each result, without what led to it. -/
inductive Became (h : MemoryHost) : MemoryHost → Except Fault Applied → Prop where
  | same (fault : Fault) : Became h h (.error fault)
  | replaced (text : String) : Became h (h.replaceText text) (.ok .reformatted)
  | shown (label text : String) : Became h (h.openPanel label text diffSyntax) (.ok .diffShown)
  | kept (message : String) : Became h (h.notify message) (.ok .unchanged)
  | rejected (message : String) (status : Int) :
      Became h (h.notify message) (.ok (.rejected status))

section Effect

variable {h h' : MemoryHost} {c : Call} {result : Except Fault Applied}

/-- The effect of a call, without what led to it. -/
theorem Effect.became (he : h.Effect c h' result) : h.Became h' result := by
  -- One case for each result: a fault, then reformatted, unchanged, rejected and shown.
  rcases result with fault | (_ | _ | status | _)
  · obtain rfl : h' = h := he
    exact .same fault
  · rcases he with ⟨_, outcome, text, _, _, rfl⟩
    exact .replaced text
  · obtain rfl := he
    exact .kept alreadyFormatted
  · rcases he with ⟨outcome, _, _, rfl⟩
    exact .rejected ("Black: " ++ outcome.stderrText) status
  · rcases he with ⟨_, outcome, text, _, _, rfl⟩
    exact .shown (diffLabel h.file) text

/-- The records grow by one where the result says so. -/
theorem Became.counts (hb : h.Became h' result) :
    h'.replacements = h.replacements + (if replaces result then 1 else 0) ∧
      h'.panels.length = h.panels.length + (if shows result then 1 else 0) ∧
      h'.notifications.length = h.notifications.length + (if notifies result then 1 else 0) := by
  cases hb with
  | same fault => exact ⟨rfl, rfl, rfl⟩
  | replaced text => exact ⟨rfl, rfl, rfl⟩
  | shown label text => exact ⟨rfl, List.length_append, rfl⟩
  | kept message => exact ⟨rfl, rfl, List.length_append⟩
  | rejected message status => exact ⟨rfl, rfl, List.length_append⟩

/-- Nothing around the buffer changes, and neither does its encoding. -/
theorem Became.surroundings (hb : h.Became h' result) :
    h'.buffer.encoding = h.buffer.encoding ∧ h'.file = h.file ∧ h'.folders = h.folders := by
  cases hb <;> exact ⟨rfl, rfl, rfl⟩

/-- The text changes only where the result says that it was replaced. -/
theorem Became.text_eq (hb : h.Became h' result) (hkept : result ≠ .ok .reformatted) :
    h'.buffer.text = h.buffer.text := by
  cases hb with
  | same fault => rfl
  | replaced text => exact absurd rfl hkept
  | shown label text => rfl
  | kept message => rfl
  | rejected message status => rfl

end Effect

/-! ## Sequences of calls -/

/-- The records grow by as many entries as there are results that say so. -/
theorem after_counts (h : MemoryHost) (calls : List Call) :
    (h.after calls).replacements = h.replacements + (h.results calls).countP replaces ∧
      (h.after calls).panels.length = h.panels.length + (h.results calls).countP shows ∧
      (h.after calls).notifications.length =
        h.notifications.length + (h.results calls).countP notifies := by
  induction calls generalizing h with
  | nil => exact ⟨rfl, rfl, rfl⟩
  | cons c calls ih =>
    have hstep := (h.effect_call c).became.counts
    simp only [after_cons, results_cons, List.countP_cons]
    -- Only what the call came to counts from here on, and not how.
    generalize h.call c = called at hstep ⊢
    have hrest := ih called.1
    refine ⟨?_, ?_, ?_⟩
    · omega
    · omega
    · omega

/-- Nothing around the buffer changes, and neither does its encoding. -/
theorem after_surroundings (h : MemoryHost) (calls : List Call) :
    (h.after calls).buffer.encoding = h.buffer.encoding ∧ (h.after calls).file = h.file ∧
      (h.after calls).folders = h.folders := by
  induction calls generalizing h with
  | nil => exact ⟨rfl, rfl, rfl⟩
  | cons c calls ih =>
    rcases (h.effect_call c).became.surroundings with ⟨hencoding, hfile, hfolders⟩
    rcases ih (h.call c).1 with ⟨ihencoding, ihfile, ihfolders⟩
    exact ⟨ihencoding.trans hencoding, ihfile.trans hfile, ihfolders.trans hfolders⟩

/-- The text that a sequence of calls leaves: that of the last call that replaced it, which is what
    the formatter printed then, or the one that was there. -/
def LastText (h : MemoryHost) (calls : List Call) (text : String) : Prop :=
  ((∀ result ∈ h.results calls, result ≠ .ok .reformatted) ∧ text = h.buffer.text) ∨
    ∃ before c later outcome, calls = before ++ c :: later ∧
      ((h.after before).call c).2 = .ok .reformatted ∧
      (∀ result ∈ ((h.after before).call c).1.results later, result ≠ .ok .reformatted) ∧
      (h.after before).Heard c outcome ∧
      decodeBytes outcome.stdout ((h.after before).labelFor c) = .ok text

/-- A call before the others is overruled by any of them that replaced the text. -/
theorem LastText.cons {h : MemoryHost} {c : Call} {calls : List Call} {text : String}
    (hrest : (h.call c).1.LastText calls text) : h.LastText (c :: calls) text := by
  rcases hrest with ⟨hkept, htext⟩ |
    ⟨before, last, later, outcome, hcalls, hresult, hkept, hheard, htext⟩
  · have heffect := h.effect_call c
    by_cases hresult : (h.call c).2 = .ok .reformatted
    · -- None of the others replaced it, so this one is the last that did.
      rw [hresult] at heffect
      rcases heffect with ⟨_, outcome, newText, hheard, hdecoded, hafter⟩
      refine Or.inr ⟨[], c, calls, outcome, rfl, hresult, hkept, hheard, ?_⟩
      rw [htext, hafter]
      exact hdecoded
    · refine Or.inl ⟨?_, ?_⟩
      · rw [results_cons, List.forall_mem_cons]
        exact ⟨hresult, hkept⟩
      · rw [htext]
        exact heffect.became.text_eq hresult
  · refine Or.inr ⟨c :: before, last, later, outcome, ?_, hresult, hkept, hheard, htext⟩
    rw [hcalls, List.cons_append]

/-- The text is that of the last call that replaced it, or the one that was there. -/
theorem after_text (h : MemoryHost) (calls : List Call) :
    h.LastText calls (h.after calls).buffer.text := by
  induction calls generalizing h with
  | nil => exact Or.inl ⟨List.forall_mem_nil _, rfl⟩
  | cons c calls ih => exact (ih (h.call c).1).cons

/-- What calls to format a buffer or to show a diff do, one by one and together. After any calls,
    the next one has the effect that its result says. Of all calls together, the records tell how
    many had which result, the text is that of the last one that replaced it, and nothing else
    ever changes. -/
theorem calls_effects (h : MemoryHost) (calls : List Call) :
    (∀ before c, (h.after before).Effect c ((h.after before).call c).1
      ((h.after before).call c).2) ∧
      (h.after calls).replacements = h.replacements + (h.results calls).countP replaces ∧
      (h.after calls).panels.length = h.panels.length + (h.results calls).countP shows ∧
      (h.after calls).notifications.length =
        h.notifications.length + (h.results calls).countP notifies ∧
      h.LastText calls (h.after calls).buffer.text ∧
      (h.after calls).buffer.encoding = h.buffer.encoding ∧
      (h.after calls).file = h.file ∧ (h.after calls).folders = h.folders := by
  rcases h.after_counts calls with ⟨hreplacements, hpanels, hnotifications⟩
  have heffects : ∀ before c, (h.after before).Effect c ((h.after before).call c).1
      ((h.after before).call c).2 := fun before c => (h.after before).effect_call c
  exact ⟨heffects, hreplacements, hpanels, hnotifications, h.after_text calls,
    h.after_surroundings calls⟩

end MemoryHost

/-- A formatter whose outcome is computed from its input. -/
def Formatter.computing (f : List UInt8 → Outcome) : Formatter.Starter := fun r =>
  .ok (⟨[], r.env, [], r.input⟩, f r.input)

/-- A buffer in Latin-1 that is formatted, then shown as a diff, and then refused. -/
def MemoryHost.formattedThenShown : List MemoryHost.Call :=
  [⟨⟨⟨[]⟩, [], .empty, fun _ => none⟩, {}, .unix, .format,
      Formatter.computing fun _ => ⟨0, [0x79, 0xE9], Utf8.encode "reformatted".toList⟩⟩,
    ⟨⟨⟨[]⟩, [], .empty, fun _ => none⟩, {}, .unix, .diff,
      Formatter.computing fun _ => ⟨0, [0x2B, 0xE9], []⟩⟩,
    ⟨⟨⟨[]⟩, [], .empty, fun _ => none⟩, {}, .unix, .format,
      Formatter.computing fun _ => ⟨123, [], []⟩⟩]

/-- Each record has one entry more, and the text is what the formatter printed first. -/
theorem MemoryHost.calls_effects_replaced :
    let h : MemoryHost := ⟨⟨"xé", some "latin-1"⟩, none, [], [], [], 0⟩
    h.results formattedThenShown = [.ok .reformatted, .ok .diffShown, .ok (.rejected 123)] ∧
      (h.after formattedThenShown).replacements = 1 ∧
      (h.after formattedThenShown).panels.length = 1 ∧
      (h.after formattedThenShown).notifications.length = 1 ∧
      h.LastText formattedThenShown "yé" := by
  intro h
  have hresults : h.results formattedThenShown =
      [.ok .reformatted, .ok .diffShown, .ok (.rejected 123)] := by decide +kernel
  have htext : (h.after formattedThenShown).buffer.text = "yé" := by decide +kernel
  rcases h.calls_effects formattedThenShown with
    ⟨_, hreplacements, hpanels, hnotifications, hlast, _⟩
  rw [hresults] at hreplacements hpanels hnotifications
  rw [htext] at hlast
  exact ⟨hresults, hreplacements, hpanels, hnotifications, hlast⟩

end BufferFormat
