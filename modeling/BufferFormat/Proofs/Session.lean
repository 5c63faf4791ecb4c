import BufferFormat.Session

/-!
# What a run can come to

A run passes four stages, and each of them can stop it: the buffer is encoded, the formatter is
started, its outcome is judged and its output is decoded. The lemmas here turn a run that came to
an action back into the four stages, with what each of them found. Everything about the hosts
rests on them, so no host has to take a run apart again.

## Main definitions

* `CallsFor`: The actions that an outcome can call for, and when.
* `Answered`: What the formatter answered when it was started for a buffer.

## Theorems

* `verdict_eq_ok_iff`: A verdict is reached exactly where the outcome calls for it.
* `prepare_eq_ok_iff`: A request is built exactly where the buffer can be encoded.
* `attemptWith_action_eq_ok_iff`: A run comes to an action exactly when the formatter answered and
  its answer calls for that action.
-/

namespace BufferFormat

/-- The actions that an outcome can call for. A failed run calls for a message, whatever it
    printed. A successful run that changed nothing calls for a message as well. Only a change has
    its output decoded. -/
inductive CallsFor (outcome : Outcome) (ctx : Context) (file : Option Path) : Action → Prop where
  | reject (hfail : outcome.success = false) :
      CallsFor outcome ctx file (.reject outcome.status ("Black: " ++ outcome.stderrText))
  | keep (hok : outcome.success = true) (hsame : countsAsChange outcome ctx = false) :
      CallsFor outcome ctx file .keep
  | showDiff (text : String) (hok : outcome.success = true)
      (hchange : countsAsChange outcome ctx = true) (hmode : ctx.mode = .diff)
      (htext : renderDiff outcome.stdout ctx.encoding = .ok text) :
      CallsFor outcome ctx file (.showDiff (diffLabel file) text)
  | replace (text : String) (hok : outcome.success = true)
      (hchange : countsAsChange outcome ctx = true) (hmode : ctx.mode = .format)
      (htext : decodeBytes outcome.stdout ctx.encoding = .ok text) :
      CallsFor outcome ctx file (.replace text)

/-- A computation that ends in a value went through a value of its first step. -/
theorem bind_eq_ok_iff {α β : Type} (x : Except Fault α) (f : α → Except Fault β) (b : β) :
    x >>= f = .ok b ↔ ∃ a, x = .ok a ∧ f a = .ok b := by
  constructor
  · intro h
    cases x with
    | error fault => cases h
    | ok a => exact ⟨a, rfl, h⟩
  · rintro ⟨a, rfl, h⟩
    exact h

/-- A computation that fails fails with its first step, or with what follows it. -/
theorem bind_eq_error_iff {ε α β : Type} (x : Except ε α) (f : α → Except ε β) (e : ε) :
    x >>= f = .error e ↔ x = .error e ∨ ∃ a, x = .ok a ∧ f a = .error e := by
  cases x with
  | error first =>
      simp only [bind, Except.bind, Except.error.injEq, reduceCtorEq, false_and, exists_false,
        or_false]
  | ok a => simp only [bind, Except.bind, reduceCtorEq, false_or, Except.ok.injEq, exists_eq_left']

/-- A verdict on a change asks for what the mode wants, if the output can be decoded. -/
theorem verdict_of_change (outcome : Outcome) (ctx : Context) (file : Option Path)
    (hok : outcome.success = true) (hchange : countsAsChange outcome ctx = true) :
    verdict outcome ctx file =
      match ctx.mode with
      | .diff => renderDiff outcome.stdout ctx.encoding >>= fun text =>
          .ok (.showDiff (diffLabel file) text)
      | .format => decodeBytes outcome.stdout ctx.encoding >>= fun text =>
          .ok (.replace text) := by
  rw [verdict, hok, hchange]
  rfl

/-- A verdict is reached exactly where the outcome calls for it. -/
theorem verdict_eq_ok_iff (outcome : Outcome) (ctx : Context) (file : Option Path)
    (action : Action) :
    verdict outcome ctx file = .ok action ↔ CallsFor outcome ctx file action := by
  constructor
  · intro h
    cases hok : outcome.success with
    | false =>
      rw [verdict, hok] at h
      cases h
      exact .reject hok
    | true =>
      cases hchange : countsAsChange outcome ctx with
      | false =>
        rw [verdict, hok, hchange] at h
        cases h
        exact .keep hok hchange
      | true =>
        -- Only here is the output decoded, in either mode under the same label.
        rw [verdict_of_change outcome ctx file hok hchange] at h
        cases hmode : ctx.mode with
        | diff =>
          rw [hmode] at h
          rcases (bind_eq_ok_iff _ _ _).mp h with ⟨text, htext, haction⟩
          cases haction
          exact .showDiff text hok hchange hmode htext
        | format =>
          rw [hmode] at h
          rcases (bind_eq_ok_iff _ _ _).mp h with ⟨text, htext, haction⟩
          cases haction
          exact .replace text hok hchange hmode htext
  · intro h
    cases h with
    | reject hfail =>
      rw [verdict, hfail]
      rfl
    | keep hok hsame =>
      rw [verdict, hok, hsame]
      rfl
    | showDiff text hok hchange hmode htext =>
      rw [verdict_of_change outcome ctx file hok hchange, hmode]
      exact (bind_eq_ok_iff _ _ _).mpr ⟨text, htext, rfl⟩
    | replace text hok hchange hmode htext =>
      rw [verdict_of_change outcome ctx file hok hchange, hmode]
      exact (bind_eq_ok_iff _ _ _).mpr ⟨text, htext, rfl⟩

/-- The formatter was started for a buffer, and this is what it answered. -/
def Answered (start : Formatter.Starter) (w : World) (config : Config) (platform : Platform)
    (view : View) (mode : Mode) (prepared : Prepared) (outcome : Outcome) : Prop :=
  prepare w config platform view mode = .ok prepared ∧
    ∃ invocation, start prepared.request = .ok (invocation, outcome)

/-- What the verdict on a prepared run depends on. -/
def Prepared.context (prepared : Prepared) (config : Config) (mode : Mode) : Context :=
  ⟨prepared.encoding, prepared.request.input, mode, config.markers⟩

/-- A run comes to an action exactly when the formatter answered and its answer calls for that
    action. -/
theorem attemptWith_action_eq_ok_iff (start : Formatter.Starter) (w : World) (config : Config)
    (platform : Platform) (view : View) (mode : Mode) (action : Action) :
    (attemptWith start w config platform view mode).action = .ok action ↔
      ∃ prepared outcome, Answered start w config platform view mode prepared outcome ∧
        CallsFor outcome (prepared.context config mode) view.file action := by
  unfold attemptWith Answered
  constructor
  · intro h
    -- A stop before the verdict leaves no action, so each stage has a value.
    cases hp : prepare w config platform view mode with
    | error fault => rw [hp] at h; cases h
    | ok prepared =>
      rw [hp] at h
      cases hs : start prepared.request with
      | error fault => simp only [hs] at h; cases h
      | ok answer =>
        simp only [hs] at h
        exact ⟨prepared, answer.2, ⟨rfl, answer.1, hs⟩, (verdict_eq_ok_iff _ _ _ _).mp h⟩
  · rintro ⟨prepared, outcome, ⟨hp, invocation, hs⟩, h⟩
    simp only [hp, hs]
    exact (verdict_eq_ok_iff _ _ _ _).mpr h

/-- A request is built exactly where the buffer can be encoded under the negotiated label. -/
theorem prepare_eq_ok_iff (w : World) (config : Config) (platform : Platform) (view : View)
    (mode : Mode) (prepared : Prepared) :
    prepare w config platform view mode = .ok prepared ↔
      ∃ input,
        encodeText view.buffer.text
          (negotiate view.buffer.encoding view.buffer.text.toList config.defaultEncoding) =
            .ok input ∧
        prepared = {
          request := {
            args := Formatter.commandLine config view.file mode.extraArgs
            env := Locale.provide w.env true platform (Locale.ofEnvironment w.env)
            cwd := Formatter.workingDir view.file view.folders
            input }
          encoding :=
            negotiate view.buffer.encoding view.buffer.text.toList config.defaultEncoding } := by
  rw [prepare, bind_eq_ok_iff]
  constructor
  · rintro ⟨input, hinput, hprepared⟩
    exact ⟨input, hinput, (Except.ok.inj hprepared).symm⟩
  · rintro ⟨input, hinput, hprepared⟩
    exact ⟨input, hinput, congrArg Except.ok hprepared.symm⟩

/-- Where the buffer can be encoded, a request is built, and it is fed with the encoded buffer. -/
theorem exists_prepare (w : World) (config : Config) (platform : Platform) (view : View)
    (mode : Mode) (input : List UInt8)
    (h : encodeText view.buffer.text
      (negotiate view.buffer.encoding view.buffer.text.toList config.defaultEncoding) =
        .ok input) :
    ∃ prepared, prepare w config platform view mode = .ok prepared ∧
      prepared.request.input = input :=
  ⟨_, (prepare_eq_ok_iff w config platform view mode _).mpr ⟨input, h, rfl⟩, rfl⟩

/-- The label of a prepared request is the one that is negotiated for the buffer. -/
theorem encoding_of_prepare (w : World) (config : Config) (platform : Platform) (view : View)
    (mode : Mode) (prepared : Prepared)
    (h : prepare w config platform view mode = .ok prepared) :
    prepared.encoding =
      negotiate view.buffer.encoding view.buffer.text.toList config.defaultEncoding := by
  rcases (prepare_eq_ok_iff _ _ _ _ _ _).mp h with ⟨input, _, rfl⟩
  rfl

end BufferFormat
