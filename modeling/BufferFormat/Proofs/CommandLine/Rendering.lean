import BufferFormat.CommandLine.Parse
import BufferFormat.CommandLine.Render
import BufferFormat.Proofs.Text.Decimal
import Mathlib.Data.List.Nodup
import Mathlib.Data.List.TakeWhile
import Mathlib.Tactic.Tauto

/-!
# Reading a command line that was written

A command line is written with one token for every option that is given, in any
order, and the files behind a separator. Reading it gives the command line back,
and no value has to be looked at for that: it stands behind the first equals
sign of its token, and a name has no equals sign, so a value may begin with
dashes or hold equals signs of its own.

The induction is over the tokens. Between two of them the state of reading is
what the options that were read make on their own, `CommandLine.part`, with
nothing pending. A token adds its option to the part, in whatever order they
come, and at the end the part is the whole command line but for its files.

Three things cannot be written: a line length of zero, an empty path for the
configuration and an empty path for a file, which reading refuses. They cannot
be read either. Every step of reading, whatever the token is, leads from a
command line without them to another one, so exactly the command lines that can
be written are read back.

## Main definitions

* `CommandLine.Writable`: A command line that can be written.
* `CommandLine.part`: What some options of a command line make on their own.
* `Yields`: A result with a property, if there is one at all.
* `CommandLine.dashed`: A command line whose values and files look like options.

## Theorems

* `Token.ofString_long`: How a token with a full name is read.
* `CommandLine.step_option`: Reading the token of an option adds it to the part.
* `CommandLine.foldlM_options`: Reading the tokens of options in any order.
* `CommandLine.settle_inputs`: Reading the separator and the files behind it.
* `Reading.step_writable`: A step of reading leads to what can be written.
* `CommandLine.writable_of_parse`: What is read can be written.
* `CommandLine.parse_render`: What can be written is read back.
-/

namespace BufferFormat

/-! ## Tokens -/

/-- A name behind two dashes, with or without a value behind an equals sign, is read as such,
    whatever the value is. -/
theorem Token.ofString_long {text name : String} {value : Option String} (hne : name ≠ "")
    (hname : '=' ∉ name.toList)
    (htext : text.toList = '-' :: '-' :: (name.toList ++ value.elim [] fun v => '=' :: v.toList)) :
    Token.ofString text = .long name value := by
  have hpass : ∀ c ∈ name.toList, (c != '=') = true := by
    intro c hc
    rw [bne_iff_ne]
    exact fun hequals => hname (hequals ▸ hc)
  -- The first equals sign ends the name, because the name has none.
  have htake : (name.toList ++ value.elim [] fun v => '=' :: v.toList).takeWhile (· != '=') =
      name.toList := by
    rw [List.takeWhile_append_of_pos hpass]
    cases value <;> exact List.append_nil _
  have hdrop : (name.toList ++ value.elim [] fun v => '=' :: v.toList).dropWhile (· != '=') =
      value.elim [] fun v => '=' :: v.toList := by
    rw [List.dropWhile_append_of_pos hpass]
    cases value <;> rfl
  match hchars : name.toList with
  | [] => exact absurd (String.toList_eq_nil_iff.mp hchars) hne
  | c :: cs =>
      rw [hchars, List.cons_append] at htext htake hdrop
      rw [Token.ofString, htext]
      simp only [htake, hdrop, ← hchars, String.ofList_toList]
      cases value with
      | none => rfl
      | some v => simp only [Option.elim_some, String.ofList_toList]

namespace Named

theorem mem_all (n : Named) : n ∈ all := by
  rcases n with s | f | q
  · cases s <;> decide
  · cases f <;> decide
  · cases q <;> decide

/-- No two options have the same name. -/
theorem ofLong?_long (n : Named) : ofLong? n.long = some n := by
  have hall : ∀ n ∈ all, ofLong? n.long = some n := by decide
  exact hall n n.mem_all

theorem long_ne_empty (n : Named) : n.long ≠ "" := by
  have hall : ∀ n ∈ all, n.long ≠ "" := by decide
  exact hall n n.mem_all

theorem equals_not_mem_long (n : Named) : '=' ∉ n.long.toList := by
  have hall : ∀ n ∈ all, '=' ∉ n.long.toList := by decide
  exact hall n n.mem_all

end Named

namespace CommandLine

/-- The value that the token of an option holds. -/
def valueOf? (c : CommandLine) : Named → Option String
  | .setting s => c.text? s
  | _ => none

/-- The token of an option is read as its name and its value. -/
theorem ofString_of_token? {c : CommandLine} {n : Named} {token : String}
    (h : c.token? n = some token) : Token.ofString token = .long n.long (c.valueOf? n) := by
  refine Token.ofString_long n.long_ne_empty n.equals_not_mem_long ?_
  match n with
  | .setting s =>
      rcases Option.map_eq_some_iff.mp h with ⟨value, hvalue, rfl⟩
      rw [valueOf?, hvalue, String.toList_append, String.toList_append, String.toList_append,
        List.append_assoc, List.append_assoc]
      rfl
  | .flag f =>
      rw [token?] at h
      split at h
      · rw [← Option.some.inj h, String.toList_append]
        exact congrArg ("--".toList ++ ·) (List.append_nil _).symm
      · cases h

/-- A token says which option it is for. -/
theorem token?_inj {c : CommandLine} {n n' : Named} {token : String} (h : c.token? n = some token)
    (h' : c.token? n' = some token) : n = n' := by
  have hread := (ofString_of_token? h).symm.trans (ofString_of_token? h')
  rw [Token.long.injEq] at hread
  have hnamed := congrArg Named.ofLong? hread.1
  rw [Named.ofLong?_long, Named.ofLong?_long] at hnamed
  exact Option.some.inj hnamed

theorem nodup_options (c : CommandLine) : c.options.Nodup :=
  List.Nodup.filterMap (fun _ _ _ h h' => token?_inj h h') (by decide)

theorem mem_options_iff (c : CommandLine) (token : String) :
    token ∈ c.options ↔ ∃ n, c.token? n = some token := by
  rw [options, List.mem_filterMap]
  exact exists_congr fun n => and_iff_right n.mem_all

/-! ## Numbers -/

theorem number?_toString (n : Nat) : number? (toString n) = some n := by
  have hread := Text.natural?_toString n
  rw [number?]
  split
  · -- A plus is no digit.
    rename_i rest hchars
    rw [hchars] at hread
    cases hread
  · exact hread

theorem lineLength?_toString {n : UInt32} (h : n ≠ 0) :
    lineLength? (toString n.toNat) = some n := by
  have hpos : 1 ≤ n.toNat := Nat.pos_of_ne_zero fun hzero => h (UInt32.toNat_inj.mp hzero)
  rw [lineLength?, number?_toString, Option.bind_some, if_pos ⟨hpos, n.toNat_lt_size⟩,
    UInt32.ofNat_toNat]

theorem jobs?_toString (n : UInt64) : jobs? (toString n.toNat) = some n := by
  rw [jobs?, number?_toString, Option.bind_some, if_pos n.toNat_lt_size, UInt64.ofNat_toNat]

theorem ne_zero_of_lineLength? {text : String} {n : UInt32} (h : lineLength? text = some n) :
    n ≠ 0 := by
  rcases Option.bind_eq_some_iff.mp h with ⟨k, _, hk⟩
  split at hk
  · rename_i hbounds
    rintro rfl
    have hzero := congrArg UInt32.toNat (Option.some.inj hk)
    rw [UInt32.toNat_ofNat_of_lt' hbounds.2] at hzero
    exact absurd hzero (Nat.pos_iff_ne_zero.mp hbounds.1)
  · cases hk

/-! ## Parts of a command line -/

/-- A command line that can be written. -/
structure Writable (c : CommandLine) : Prop where
  lineLength : c.lineLength ≠ some 0
  config : c.config ≠ some ⟨""⟩
  inputs : ∀ p ∈ c.inputs, p.text ≠ ""

/-- What some options of a command line make on their own. -/
def part (c : CommandLine) (ns : List Named) : CommandLine where
  command := if .setting .blackCommand ∈ ns then c.command else none
  lineLength := if .setting .lineLength ∈ ns then c.lineLength else none
  fast := decide (.flag .fast ∈ ns) && c.fast
  skipStringNormalization :=
    decide (.flag .skipStringNormalization ∈ ns) && c.skipStringNormalization
  includePattern := if .setting .includePattern ∈ ns then c.includePattern else none
  excludePattern := if .setting .excludePattern ∈ ns then c.excludePattern else none
  py36 := decide (.flag .py36 ∈ ns) && c.py36
  defaultEncoding := if .setting .defaultEncoding ∈ ns then c.defaultEncoding else none
  encoding := if .setting .encoding ∈ ns then c.encoding else none
  diff := decide (.flag .diff ∈ ns) && c.diff
  stdout := decide (.flag .stdout ∈ ns) && c.stdout
  config := if .setting .config ∈ ns then c.config else none
  recursive := decide (.flag .recursive ∈ ns) && c.recursive
  jobs := if .setting .jobs ∈ ns then c.jobs else none
  debug := decide (.flag .debug ∈ ns) && c.debug
  silent := decide (.flag .silent ∈ ns) && c.silent

section Part

variable (c : CommandLine) (ns : List Named)

theorem text?_part (s : Setting) :
    (c.part ns).text? s = if .setting s ∈ ns then c.text? s else none := by
  cases s <;> simp only [text?, part] <;> split <;> rfl

theorem has_part (f : Flag) : (c.part ns).has f = (decide (.flag f ∈ ns) && c.has f) := by
  cases f <;> rfl

end Part

theorem raise_part {c : CommandLine} {f : Flag} (h : c.has f = true) (ns : List Named) :
    (c.part ns).raise f = c.part (.flag f :: ns) := by
  cases f <;> simp only [has] at h <;>
    simp only [raise, part, List.mem_cons, reduceCtorEq, Named.flag.injEq, false_or, true_or, h,
      decide_true, Bool.and_self]

/-- Giving a part the text of a setting adds the setting to it. -/
theorem set_part {c : CommandLine} (hc : c.Writable) {s : Setting} {text : String}
    (h : c.text? s = some text) (ns : List Named) :
    (c.part ns).set s text = .ok (c.part (.setting s :: ns)) := by
  cases s with
  | lineLength =>
      rcases Option.map_eq_some_iff.mp h with ⟨n, hn, rfl⟩
      have hne : n ≠ 0 := fun hzero => hc.lineLength (hzero ▸ hn)
      simp only [set, lineLength?_toString hne, part, List.mem_cons, reduceCtorEq,
        Named.setting.injEq, false_or, true_or, hn, if_true]
  | config =>
      rcases Option.map_eq_some_iff.mp h with ⟨p, hp, rfl⟩
      have hne : p.text.isEmpty = false := by
        rw [Bool.eq_false_iff, Ne, String.isEmpty_iff]
        exact fun hempty => hc.config (hp.trans (congrArg (some ∘ Path.mk) hempty))
      simp only [set, hne, part, List.mem_cons, reduceCtorEq, Named.setting.injEq, false_or,
        true_or, hp, if_true, Bool.false_eq_true, if_false]
  | jobs =>
      rcases Option.map_eq_some_iff.mp h with ⟨n, hn, rfl⟩
      simp only [set, jobs?_toString, part, List.mem_cons, reduceCtorEq, Named.setting.injEq,
        false_or, true_or, hn, if_true]
  | _ =>
      rw [text?] at h
      simp only [set, part, List.mem_cons, reduceCtorEq, Named.setting.injEq, false_or, true_or, h,
        if_true]

/-- Options that include all that are given make the command line but for its files. -/
theorem part_eq_of_forall {c : CommandLine} {ns : List Named}
    (h : ∀ n token, c.token? n = some token → n ∈ ns) : c.part ns = { c with inputs := [] } := by
  have hsetting : ∀ {α : Type} (s : Setting) (value : Option α), (c.text? s = none → value = none) →
      (if .setting s ∈ ns then value else none) = value := by
    intro α s value hnone
    refine ite_eq_left_iff.mpr fun hs => (hnone ?_).symm
    cases htext : c.text? s with
    | none => rfl
    | some text => exact absurd (h (.setting s) _ (congrArg (Option.map _) htext)) hs
  have hflag : ∀ f, (decide (.flag f ∈ ns) && c.has f) = c.has f := by
    intro f
    cases hgiven : c.has f with
    | false => exact Bool.and_false _
    | true =>
        rw [Bool.and_true, decide_eq_true_eq]
        exact h (.flag f) _ (if_pos hgiven)
  rw [part, CommandLine.mk.injEq]
  exact ⟨rfl, hsetting .blackCommand _ id, hsetting .lineLength _ Option.map_eq_none_iff.mp,
    hflag .fast, hflag .skipStringNormalization, hsetting .includePattern _ id,
    hsetting .excludePattern _ id, hflag .py36, hsetting .defaultEncoding _ id,
    hsetting .encoding _ id, hflag .diff, hflag .stdout,
    hsetting .config _ Option.map_eq_none_iff.mp, hflag .recursive,
    hsetting .jobs _ Option.map_eq_none_iff.mp, hflag .debug, hflag .silent⟩

/-! ## Reading the tokens of a command line -/

/-- Reading the token of an option adds the option to the part that was read before. -/
theorem step_option {c : CommandLine} (hc : c.Writable) {n : Named} {token : String}
    (h : c.token? n = some token) {ns : List Named} (hn : n ∉ ns) :
    Reading.step { line := c.part ns } token = .ok { line := c.part (n :: ns) } := by
  rw [Reading.step, if_neg Bool.false_ne_true, ofString_of_token? h]
  simp only [Reading.long, Named.ofLong?_long]
  match n with
  | .setting s =>
      rcases Option.map_eq_some_iff.mp h with ⟨value, hvalue, rfl⟩
      have hgive : (c.part ns).give s value = .ok (c.part (.setting s :: ns)) := by
        rw [give, text?_part, if_neg hn, set_part hc hvalue]
        rfl
      simp only [valueOf?, hvalue, Reading.attach, Reading.settle, bind, Except.bind, hgive]
      rfl
  | .flag f =>
      have hgiven : c.has f = true := by
        by_contra hnot
        rw [token?, if_neg hnot] at h
        cases h
      have hturn : (c.part ns).turnOn f = .ok (c.part (.flag f :: ns)) := by
        rw [turnOn, has_part, decide_eq_false hn, raise_part hgiven]
        rfl
      simp only [valueOf?, Reading.mark, Reading.settle, bind, Except.bind, hturn]
      rfl

/-- Reading tokens of options, each at most once and none that was read before, adds all of them to
    the part, in whatever order they stand. -/
theorem foldlM_options {c : CommandLine} (hc : c.Writable) {tokens : List String}
    (hnodup : tokens.Nodup) {ns : List Named}
    (htokens : ∀ token ∈ tokens, ∃ n, c.token? n = some token ∧ n ∉ ns) :
    ∃ ms, tokens.foldlM Reading.step { line := c.part ns } = .ok { line := c.part ms } ∧
      ∀ n, n ∈ ms ↔ n ∈ ns ∨ ∃ token ∈ tokens, c.token? n = some token := by
  induction tokens generalizing ns with
  | nil =>
      refine ⟨ns, rfl, fun n => ?_⟩
      simp only [List.not_mem_nil, false_and, exists_false, or_false]
  | cons token tokens ih =>
      rw [List.nodup_cons] at hnodup
      rcases htokens token List.mem_cons_self with ⟨n, hn, hnew⟩
      have hrest : ∀ token' ∈ tokens, ∃ n', c.token? n' = some token' ∧ n' ∉ n :: ns := by
        intro token' htoken'
        rcases htokens token' (List.mem_cons_of_mem _ htoken') with ⟨n', hn', hnew'⟩
        refine ⟨n', hn', List.not_mem_cons_of_ne_of_not_mem ?_ hnew'⟩
        rintro rfl
        exact hnodup.1 (Option.some.inj (hn'.symm.trans hn) ▸ htoken')
      rcases ih hnodup.2 hrest with ⟨ms, hread, hms⟩
      refine ⟨ms, ?_, fun m => ?_⟩
      · rw [List.foldlM_cons, step_option hc hn hnew]
        exact hread
      · have hm : c.token? m = some token ↔ m = n :=
          ⟨fun hm => token?_inj hm hn, fun hm => hm ▸ hn⟩
        rw [hms, List.mem_cons, List.exists_mem_cons_iff, hm]
        tauto

/-- Behind the separator every token is one more file. -/
theorem foldlM_inputs (line : CommandLine) (before texts : List String) :
    texts.foldlM Reading.step ⟨line, .inputs before, true⟩ =
      .ok ⟨line, .inputs (before ++ texts), true⟩ := by
  induction texts generalizing before with
  | nil => rw [List.append_nil]; rfl
  | cons text texts ih =>
      have hstep : Reading.step ⟨line, .inputs before, true⟩ text =
          .ok ⟨line, .inputs (before ++ [text]), true⟩ := rfl
      rw [List.foldlM_cons, hstep, List.append_cons before text texts]
      exact ih (before ++ [text])

theorem addInputs_of_ne_empty (line : CommandLine) {inputs : List Path}
    (h : ∀ p ∈ inputs, p.text ≠ "") :
    line.addInputs (inputs.map Path.text) = .ok { line with inputs := line.inputs ++ inputs } := by
  have hany : (inputs.map Path.text).any String.isEmpty = false := by
    rw [List.any_map, List.any_eq_false]
    intro p hp
    rw [Function.comp_apply, String.isEmpty_iff]
    exact h p hp
  rw [addInputs, hany, if_neg Bool.false_ne_true, List.map_map]
  exact congrArg (fun added => Except.ok { line with inputs := line.inputs ++ added })
    (List.map_id inputs)

/-- The separator and the files behind it add the files to what was read before. -/
theorem settle_inputs (line : CommandLine) {inputs : List Path} (h : ∀ p ∈ inputs, p.text ≠ "") :
    (do
      let r ← ("--" :: inputs.map Path.text).foldlM Reading.step { line }
      r.settle) =
      .ok { line := { line with inputs := line.inputs ++ inputs }, onlyInputs := true } := by
  have hseparator : ("--" :: inputs.map Path.text).foldlM Reading.step { line } =
      (inputs.map Path.text).foldlM Reading.step { line, onlyInputs := true } := rfl
  rw [hseparator]
  cases inputs with
  | nil => rw [List.append_nil]; rfl
  | cons p inputs =>
      have hfirst : Reading.step { line, onlyInputs := true } p.text =
          .ok ⟨line, .inputs [p.text], true⟩ := rfl
      have hread : ((p :: inputs).map Path.text).foldlM Reading.step { line, onlyInputs := true } =
          .ok ⟨line, .inputs ((p :: inputs).map Path.text), true⟩ := by
        rw [List.map_cons, List.foldlM_cons, hfirst]
        exact foldlM_inputs line [p.text] (inputs.map Path.text)
      rw [hread]
      simp only [bind, Except.bind, Reading.settle, addInputs_of_ne_empty line h]
      rfl

end CommandLine

/-! ## What comes out of reading -/

/-- What comes out has a property, if anything comes out. -/
def Yields {ε α : Type} (P : α → Prop) (result : Except ε α) : Prop :=
  ∀ a, result = .ok a → P a

namespace Yields

variable {ε ε' α β : Type} {P : α → Prop} {Q : β → Prop}

theorem ok {a : α} (h : P a) : Yields P (Except.ok a : Except ε α) := by
  rintro _ ⟨⟩
  exact h

theorem error (e : ε) : Yields P (Except.error e) := by
  rintro _ ⟨⟩

theorem bind {x : Except ε α} {f : α → Except ε β} (hx : Yields P x)
    (hf : ∀ a, P a → Yields Q (f a)) : Yields Q (x >>= f) := by
  cases x with
  | error e => exact error e
  | ok a => exact hf a (hx a rfl)

theorem mapError {x : Except ε α} (hx : Yields P x) (f : ε → ε') : Yields P (x.mapError f) := by
  cases x with
  | error e => exact error (f e)
  | ok a => exact ok (hx a rfl)

theorem foldlM {f : β → α → Except ε β} (hf : ∀ b a, Q b → Yields Q (f b a)) {as : List α} {b : β}
    (hb : Q b) : Yields Q (as.foldlM f b) := by
  induction as generalizing b with
  | nil => exact ok hb
  | cons a as ih => exact (hf b a hb).bind fun _ hb' => ih hb'

end Yields

namespace CommandLine.Writable

variable {c : CommandLine} (hc : c.Writable)

include hc

/-- A line length of zero and an empty path for the configuration are refused. -/
theorem set (s : Setting) (text : String) : Yields Writable (c.set s text) := by
  cases s with
  | lineLength =>
      rw [CommandLine.set]
      split
      · rename_i n hn
        refine .ok ⟨fun hzero => ?_, hc.config, hc.inputs⟩
        exact ne_zero_of_lineLength? hn (Option.some.inj hzero)
      · exact .error _
  | config =>
      rw [CommandLine.set]
      split
      · exact .error _
      · rename_i hne
        refine .ok ⟨hc.lineLength, fun hempty => ?_, hc.inputs⟩
        exact hne (String.isEmpty_iff.mpr (congrArg Path.text (Option.some.inj hempty)))
  | jobs =>
      rw [CommandLine.set]
      split
      · exact .ok ⟨hc.lineLength, hc.config, hc.inputs⟩
      · exact .error _
  | _ => exact .ok ⟨hc.lineLength, hc.config, hc.inputs⟩

theorem give (s : Setting) (text : String) : Yields Writable (c.give s text) := by
  rw [CommandLine.give]
  split
  · exact .error _
  · exact hc.set s text

theorem turnOn (f : Flag) : Yields Writable (c.turnOn f) := by
  rw [CommandLine.turnOn]
  split
  · exact .error _
  · cases f <;> exact .ok ⟨hc.lineLength, hc.config, hc.inputs⟩

/-- An empty path for a file is refused. -/
theorem addInputs (texts : List String) : Yields Writable (c.addInputs texts) := by
  rw [CommandLine.addInputs]
  split
  · exact .error _
  · rename_i hnone
    refine .ok ⟨hc.lineLength, hc.config, fun p hp => ?_⟩
    rcases List.mem_append.mp hp with hp | hp
    · exact hc.inputs p hp
    · rcases List.mem_map.mp hp with ⟨text, htext, rfl⟩
      exact fun hempty => hnone (List.any_eq_true.mpr ⟨text, htext, String.isEmpty_iff.mpr hempty⟩)

end CommandLine.Writable

namespace Reading

/-- What was read so far can be written. -/
def Writable (r : Reading) : Prop := r.line.Writable

variable {r : Reading} (hr : r.Writable)

include hr

theorem settle_writable : Yields Writable r.settle := by
  rw [settle]
  split
  · exact .ok hr
  · exact ((CommandLine.Writable.addInputs hr _).mapError _).bind fun _ hline => .ok hline
  · exact .error _
  · exact ((CommandLine.Writable.give hr _ _).mapError _).bind fun _ hline => .ok hline

theorem attach_writable (s : Setting) (value : String) : Yields Writable (r.attach s value) :=
  (settle_writable hr).bind fun _ hr' =>
    ((CommandLine.Writable.give hr' s value).mapError _).bind fun _ hline => .ok hline

theorem await_writable (s : Setting) : Yields Writable (r.await s) :=
  (settle_writable hr).bind fun _ hr' => .ok hr'

theorem mark_writable (f : Flag) : Yields Writable (r.mark f) :=
  (settle_writable hr).bind fun _ hr' =>
    ((CommandLine.Writable.turnOn hr' f).mapError _).bind fun _ hline => .ok hline

theorem answer_writable (q : Query) : Yields Writable (r.answer q) :=
  (settle_writable hr).bind fun _ _ => .error _

theorem addInput_writable (text : String) : Yields Writable (r.addInput text) := by
  rw [addInput]
  split
  · exact .ok hr
  · exact (settle_writable hr).bind fun _ hr' => .ok hr'

theorem plain_writable (text : String) : Yields Writable (r.plain text) := by
  rw [plain]
  split
  · exact .ok hr
  · exact addInput_writable hr text

theorem long_writable (name : String) (value : Option String) :
    Yields Writable (r.long name value) := by
  unfold long
  split
  · exact .error _
  · exact attach_writable hr _ _
  · exact await_writable hr _
  · exact .error _
  · exact mark_writable hr _
  · exact answer_writable hr _

omit hr in
theorem letters_writable (cs : List Char) (hr : r.Writable) : Yields Writable (r.letters cs) := by
  induction cs generalizing r with
  | nil => exact .ok hr
  | cons c cs ih =>
      rw [letters]
      split
      · exact .error _
      · split
        · exact await_writable hr _
        · exact attach_writable hr _ _
        · exact attach_writable hr _ _
      · exact (mark_writable hr _).bind fun _ hr' => ih hr'
      · exact answer_writable hr _

theorem step_writable (text : String) : Yields Writable (r.step text) := by
  rw [step]
  split
  · exact addInput_writable hr text
  · split
    · exact .ok hr
    · exact long_writable hr _ _
    · exact letters_writable _ hr
    · exact plain_writable hr _

end Reading

namespace CommandLine

/-- A command line that was read can be written. -/
theorem writable_of_parse {argv : List String} {c : CommandLine} (h : parse argv = .ok c) :
    c.Writable := by
  have hempty : Reading.Writable {} := ⟨nofun, nofun, nofun⟩
  have hread : Yields CommandLine.Writable (parse argv) :=
    (Yields.foldlM (fun _ text hr => Reading.step_writable hr text) hempty).bind fun _ hr =>
      (Reading.settle_writable hr).bind fun _ hr' => .ok hr'
  exact hread c h

/-- What is written is read back, whatever the order of the options and the texts of the values,
    for exactly the command lines that can be written. -/
theorem parse_render (c : CommandLine) (program : String) (options : List String)
    (hoptions : options.Perm c.options) :
    parse (render program options c.inputs) = .ok c ↔ c.Writable := by
  refine ⟨writable_of_parse, fun hc => ?_⟩
  have hgiven : ∀ token ∈ options, ∃ n, c.token? n = some token ∧ n ∉ [] := by
    intro token htoken
    rcases (mem_options_iff c token).mp (hoptions.mem_iff.mp htoken) with ⟨n, hn⟩
    exact ⟨n, hn, List.not_mem_nil⟩
  rcases foldlM_options hc (hoptions.nodup_iff.mpr c.nodup_options) hgiven with ⟨ms, hread, hms⟩
  have hwhole : c.part ms = { c with inputs := [] } := by
    refine part_eq_of_forall fun n token hn => (hms n).mpr (.inr ⟨token, ?_, hn⟩)
    exact hoptions.mem_iff.mpr ((mem_options_iff c token).mpr ⟨n, hn⟩)
  rw [hwhole] at hread
  calc parse (render program options c.inputs)
      = (do
          let r ← options.foldlM Reading.step {}
          let r ← ("--" :: c.inputs.map Path.text).foldlM Reading.step r
          let r ← r.settle
          return r.line) := by
        rw [← bind_assoc, ← List.foldlM_append]
        rfl
    _ = (do
          let r ← ("--" :: c.inputs.map Path.text).foldlM Reading.step
            { line := { c with inputs := [] } }
          let r ← r.settle
          return r.line) := congrArg (· >>= _) hread
    _ = .ok c := by
        rw [← bind_assoc, settle_inputs { c with inputs := [] } hc.inputs]
        rfl

/-- A command line whose values and files look like options. -/
def dashed : CommandLine where
  inputs := [⟨"--fast"⟩, ⟨"-"⟩, ⟨"--"⟩]
  command := some "--diff=a b"
  lineLength := some 120
  fast := true
  includePattern := some "-l"
  excludePattern := some "=="
  config := some ⟨"=-c"⟩
  jobs := some 0
  silent := true

theorem parse_render_dashed :
    ["--silent", "--exclude===", "--jobs=0", "--config==-c", "--include=-l", "--fast",
        "--black-command=--diff=a b", "--line-length=120"].Perm dashed.options ∧
      dashed.Writable ∧
      parse ["blackpipe", "--silent", "--exclude===", "--jobs=0", "--config==-c", "--include=-l",
        "--fast", "--black-command=--diff=a b", "--line-length=120", "--", "--fast", "-", "--"] =
          .ok dashed := by
  have hoptions : ["--silent", "--exclude===", "--jobs=0", "--config==-c", "--include=-l", "--fast",
      "--black-command=--diff=a b", "--line-length=120"].Perm dashed.options := by decide
  have hwritable : dashed.Writable := ⟨by decide, by decide, by decide⟩
  exact ⟨hoptions, hwritable, (parse_render dashed "blackpipe" _ hoptions).mpr hwritable⟩

end CommandLine

end BufferFormat
