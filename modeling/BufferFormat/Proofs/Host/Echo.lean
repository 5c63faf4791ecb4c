import BufferFormat.Proofs.Encoding.ReadBack
import BufferFormat.Proofs.Host.Memory

/-!
# A formatter that changes nothing

A formatter may print what it was fed and still say that it reformatted it. The
buffer is then replaced by what is read from its own encoded text, so whether it
stays as it was is a question about the encoding alone. It does not always stay:
a character that the encoding folds is written without an error and comes back as
another one. `text_of_echo` says that nothing worse happens, whatever the label is
and whatever the formatter says.

## Main definitions

* `Formatter.Echoes`: A formatter that prints what it was fed.

## Theorems

* `MemoryHost.text_of_echo`: What a text becomes.
* `MemoryHost.call_echo`: Only folded characters are changed.
* `MemoryHost.after_echo`: A text in ASCII survives any calls.
-/

namespace BufferFormat

/-- A formatter that prints what it was fed, whatever else it says. -/
def Formatter.Echoes (start : Formatter.Starter) : Prop :=
  ∀ request invocation outcome, start request = .ok (invocation, outcome) →
    outcome.stdout = request.input

/-- A formatter that prints what it was fed, and says that it reformatted it. -/
def Formatter.echoing : Formatter.Starter := fun r =>
  .ok (⟨[], r.env, [], r.input⟩, ⟨0, r.input, Utf8.encode "reformatted -".toList⟩)

theorem Formatter.echoes_echoing : Formatter.Echoes Formatter.echoing := by
  intro request invocation outcome h
  cases h
  rfl

namespace MemoryHost

section Call

-- As in other calls, what a request needs is known by its own lemma and need not be evaluated.
attribute [local irreducible] prepare

/-- What a call decodes from an echo is what is read from the buffer's own encoded text. -/
theorem decodeBytes_of_heard {h : MemoryHost} {c : Call} {outcome : Outcome} {text : String}
    (hecho : Formatter.Echoes c.start) (hheard : h.Heard c outcome)
    (hd : decodeBytes outcome.stdout (h.labelFor c) = .ok text) :
    ∃ bytes, encodeText h.buffer.text (h.labelFor c) = .ok bytes ∧
      decodeBytes bytes (h.labelFor c) = .ok text := by
  rcases hheard with ⟨prepared, hprepared, invocation, hstart⟩
  rcases (prepare_eq_ok_iff _ _ _ _ _ _).mp hprepared with ⟨input, hinput, hrequest⟩
  have hstdout : outcome.stdout = input := by
    rw [hecho _ _ _ hstart, hrequest]
  rw [hstdout] at hd
  exact ⟨input, hinput, hd⟩

/-- A call that replaces the text by an echo leaves it with each character read back. -/
theorem text_of_echo (h : MemoryHost) (c : Call) (hecho : Formatter.Echoes c.start) :
    (h.call c).1.buffer.text = h.buffer.text ∨
      (h.call c).2 = .ok .reformatted ∧ ∃ e, Encoding.lookup (h.labelFor c) = .ok e ∧
        (h.call c).1.buffer.text = String.ofList (h.buffer.text.toList.map e.readBack) := by
  have heffect := h.effect_call c
  by_cases hresult : (h.call c).2 = .ok .reformatted
  · -- Only this result comes with another text, and that text was decoded from the echo.
    rw [hresult] at heffect
    rcases heffect with ⟨_, outcome, text, hheard, hdecoded, hafter⟩
    rcases decodeBytes_of_heard hecho hheard hdecoded with ⟨bytes, hbytes, hread⟩
    rcases exists_lookup_of_encodeText hbytes with ⟨e, hl⟩
    refine Or.inr ⟨hresult, e, hl, ?_⟩
    rw [hafter]
    exact decodeBytes_encodeText hl hbytes hread
  · exact Or.inl (heffect.became.text_eq hresult)

/-- A text of which no character is folded is read back as it was. -/
theorem ofList_map_readBack {e : Encoding} {text : String}
    (hkept : ∀ char ∈ text.toList, e.readBack char = char) :
    String.ofList (text.toList.map e.readBack) = text := by
  rw [List.map_congr_left hkept, List.map_id', String.ofList_toList]

/-- A formatter that prints what it was fed leaves the text as it was, or it leaves the text with
    each character read back from the encoding of the call. Where the encoding folds no character
    of the text, that is the text as it was. -/
theorem call_echo (h : MemoryHost) (c : Call) (hecho : Formatter.Echoes c.start) :
    ((h.call c).1.buffer.text = h.buffer.text ∨
        (h.call c).2 = .ok .reformatted ∧ ∃ e, Encoding.lookup (h.labelFor c) = .ok e ∧
          (h.call c).1.buffer.text = String.ofList (h.buffer.text.toList.map e.readBack)) ∧
      ∀ e, Encoding.lookup (h.labelFor c) = .ok e →
        (∀ char ∈ h.buffer.text.toList, e.readBack char = char) →
        (h.call c).1.buffer.text = h.buffer.text := by
  refine ⟨h.text_of_echo c hecho, fun e hl hkept => ?_⟩
  rcases h.text_of_echo c hecho with hsame | ⟨_, e', hl', htext⟩
  · exact hsame
  · obtain rfl : e' = e := Except.ok.inj (hl'.symm.trans hl)
    rw [htext, ofList_map_readBack hkept]

end Call

/-- In an encoding that folds characters of other texts only, a text is left as it was though it is
    replaced. -/
theorem call_echo_shiftJis :
    Formatter.Echoes Formatter.echoing ∧
      Encoding.lookup (labelFor ⟨⟨"表 = 1\n", some "shift_jis"⟩, none, [], [], [], 0⟩
        ⟨⟨⟨[]⟩, [], .empty, fun _ => none⟩, {}, .unix, .format, Formatter.echoing⟩) =
        .ok .shiftJis ∧
      (call ⟨⟨"表 = 1\n", some "shift_jis"⟩, none, [], [], [], 0⟩
        ⟨⟨⟨[]⟩, [], .empty, fun _ => none⟩, {}, .unix, .format,
          Formatter.echoing⟩).1.buffer.text = "表 = 1\n" := by
  have hl : Encoding.lookup (labelFor ⟨⟨"表 = 1\n", some "shift_jis"⟩, none, [], [], [], 0⟩
      ⟨⟨⟨[]⟩, [], .empty, fun _ => none⟩, {}, .unix, .format, Formatter.echoing⟩) =
      .ok .shiftJis := by rfl
  have hall : ("表 = 1\n".toList.all fun char =>
      Encoding.shiftJis.readBack char == char) = true := by
    decide
  exact ⟨Formatter.echoes_echoing, hl,
    (call_echo _ _ Formatter.echoes_echoing).2 .shiftJis hl
      fun char hchar => beq_iff_eq.mp (List.all_eq_true.mp hall char hchar)⟩

/-- A yen sign becomes a backslash, though the formatter changed nothing. -/
theorem call_echo_yen :
    Formatter.Echoes Formatter.echoing ∧
      (call ⟨⟨"price = '¥5'\n", some "shift_jis"⟩, none, [], [], [], 0⟩
        ⟨⟨⟨[]⟩, [], .empty, fun _ => none⟩, {}, .unix, .format,
          Formatter.echoing⟩).1.buffer.text ≠ "price = '¥5'\n" := by
  have htext : (call ⟨⟨"price = '¥5'\n", some "shift_jis"⟩, none, [], [], [], 0⟩
      ⟨⟨⟨[]⟩, [], .empty, fun _ => none⟩, {}, .unix, .format,
        Formatter.echoing⟩).1.buffer.text = "price = '\\5'\n" := by rfl
  rw [htext]
  exact ⟨Formatter.echoes_echoing, by decide⟩

section Calls

attribute [local irreducible] prepare

/-- A text in ASCII survives any calls to formatters that change nothing, under any labels. -/
theorem after_echo (h : MemoryHost) (calls : List Call)
    (hecho : ∀ c ∈ calls, Formatter.Echoes c.start)
    (hascii : ∀ char ∈ h.buffer.text.toList, char.toNat < 0x80) :
    (h.after calls).buffer.text = h.buffer.text := by
  induction calls generalizing h with
  | nil => rfl
  | cons c calls ih =>
      have hcall : (h.call c).1.buffer.text = h.buffer.text := by
        rcases h.text_of_echo c (hecho c List.mem_cons_self) with hsame | ⟨_, e, _, htext⟩
        · exact hsame
        · rw [htext, ofList_map_readBack fun char hchar => e.readBack_of_lt (hascii char hchar)]
      have hrest := ih (h.call c).1 (fun c' hc' => hecho c' (List.mem_cons_of_mem c hc'))
        (by rw [hcall]; exact hascii)
      exact hrest.trans hcall

end Calls

end MemoryHost

end BufferFormat
