import BufferFormat.Transducer

/-!
# Transducers that undo each other

When a decoder reads back exactly what an encoder writes.

`Transducer.runFrom` carries the output so far, which suits a machine and no
proof. `outputFrom` is the same run as a function of the rest of the input
alone, and everything below is stated with it.

An encoder without memory is given by the blocks of its items, so a decoder
has to be compared with a function from items to blocks. Two facts make it the
inverse. It reads a block back to the item, whatever follows; this gives one
direction. And at every moment what it has read but not yet answered is the
beginning of a block, which `Undoes` carries as a relation between states and
lists; this gives the other, by an induction on the input in which the pending
part grows and is answered.

The relation is a parameter, as each decoder remembers its pending part in a
form of its own: as the bits read so far, as a surrogate, or not at all.

Not every encoder can be undone. Some write two items alike, and then only one
direction is left: what they write is read as something, item by item. For that
the two machines walk along together. `run_of_reads` relates their states, as
both may remember something from one item to the next.

## Main definitions

* `Transducer.outputFrom`: The output for the rest of an input, by recursion on it.
* `Transducer.reads`: The state and the output after a part of an input.
* `Transducer.Undoes`: The facts about single steps that make a decoder an inverse.

## Theorems

* `runFrom_eq_outputFrom`: A run only puts the earlier output in front.
* `run_eq_outputFrom`: The output for a whole input.
* `stateless_outputFrom_cons`: A transducer without memory answers item by item.
* `run_stateless_total`: If it refuses no item, it answers every input.
* `Undoes.outputFrom_of_stateless`: What the blocks write is read back.
* `Undoes.stateless_of_outputFrom`: What is read back was written by the blocks.
* `Undoes.run_stateless_eq_some_iff`: Writing and reading are inverse partial functions.
* `undoes_of_iff`: A decoder without memory undoes the inverse of its own table.
* `outputFrom_append_of_reads`: An input is read part by part.
* `run_of_reads`: What is written item by item is read item by item.
-/

namespace BufferFormat

namespace Transducer

variable {α β : Type}

/-- The output for the rest of an input, from a state on. -/
def outputFrom (t : Transducer α β) : t.State → List α → Option (List β)
  | q, [] => t.finish q
  | q, a :: rest =>
    match t.step q a with
    | none => none
    | some (q', out) => (outputFrom t q' rest).map (out ++ ·)

theorem outputFrom_cons_of_step (t : Transducer α β) (q q' : t.State) (a : α) (out : List β)
    (rest : List α) (h : t.step q a = some (q', out)) :
    t.outputFrom q (a :: rest) = (t.outputFrom q' rest).map (out ++ ·) := by
  simp only [outputFrom, h]

theorem runFrom_eq_outputFrom (t : Transducer α β) (input : List α) :
    ∀ (q : t.State) (written : List β),
      t.runFrom q written input = (t.outputFrom q input).map (written.reverse ++ ·) := by
  -- The output so far stays general, as every step adds to it.
  induction input with
  | nil =>
      intro q written
      simp only [runFrom, outputFrom, List.reverseAux_eq, List.reverse_append,
        List.reverse_reverse]
  | cons a rest ih =>
      intro q written
      simp only [runFrom, outputFrom]
      rcases t.step q a with _ | ⟨q', out⟩
      · rfl
      · simp only [ih, List.reverseAux_eq, List.reverse_append, List.reverse_reverse,
          Option.map_map, Function.comp_def, List.append_assoc]

theorem run_eq_outputFrom (t : Transducer α β) (input : List α) :
    t.run input = t.outputFrom t.start input := by
  rw [run, runFrom_eq_outputFrom]
  simp only [List.reverse_nil, List.nil_append, Option.map_id']

theorem stateless_outputFrom_cons (f : α → Option (List β)) (a : α) (rest : List α) :
    (stateless f).outputFrom () (a :: rest) =
      (f a).bind fun block => ((stateless f).outputFrom () rest).map (block ++ ·) := by
  rcases hf : f a with _ | block
  · simp only [outputFrom, stateless, hf, Option.map_none, Option.bind_none]
  · simp only [outputFrom, stateless, hf, Option.map_some, Option.bind_some]

/-- A transducer without memory that refuses no item answers every input. -/
theorem run_stateless_total (f : α → List β) (items : List α) :
    (stateless fun a => some (f a)).run items = some (items.flatMap f) := by
  rw [run_eq_outputFrom]
  induction items with
  | nil => rfl
  | cons a rest ih =>
      have hcons := stateless_outputFrom_cons (fun a => some (f a)) a rest
      rw [Option.bind_some] at hcons
      rw [List.flatMap_cons]
      exact hcons.trans ((congrArg (Option.map (f a ++ ·)) ih).trans rfl)

/-- The decoder `d` undoes the blocks of `f`, where `Pending q bs` says that in state `q` the
    decoder has read `bs` without an answer so far. -/
structure Undoes (d : Transducer β α) (f : α → Option (List β))
    (Pending : d.State → List β → Prop) : Prop where
  /-- A block is read back, and the decoder is where it started. -/
  reads : ∀ a block, f a = some block → ∀ rest,
    d.outputFrom d.start (block ++ rest) = (d.outputFrom d.start rest).map (a :: ·)
  /-- The input may end where nothing is pending. -/
  ends : d.finish d.start = some []
  /-- Nothing is pending at the start. -/
  starts : Pending d.start []
  /-- A step adds to what is pending, or completes the block of an item. -/
  steps : ∀ q bs b q' out, Pending q bs → d.step q b = some (q', out) →
    (out = [] ∧ Pending q' (bs ++ [b])) ∨
      ∃ a, out = [a] ∧ q' = d.start ∧ f a = some (bs ++ [b])
  /-- The input may end only where nothing is pending. -/
  finishes : ∀ q bs out, Pending q bs → d.finish q = some out → out = [] ∧ bs = []

section Undoes

variable {d : Transducer β α} {f : α → Option (List β)} {Pending : d.State → List β → Prop}

theorem Undoes.outputFrom_of_stateless (u : Undoes d f Pending) (items : List α) :
    ∀ (bs : List β), (stateless f).outputFrom () items = some bs →
      d.outputFrom d.start bs = some items := by
  induction items with
  | nil =>
      intro bs h
      simp only [outputFrom, stateless, Option.some.injEq] at h
      rw [← h, outputFrom, u.ends]
  | cons a rest ih =>
      intro bs h
      rw [stateless_outputFrom_cons] at h
      rcases Option.bind_eq_some_iff.mp h with ⟨block, hblock, hrest⟩
      rcases Option.map_eq_some_iff.mp hrest with ⟨bs', hbs', rfl⟩
      -- The first block is read back whole, and leaves the decoder where it started.
      rw [u.reads a block hblock bs', ih bs' hbs', Option.map_some]

/-- What is read back was written by the blocks. The induction is on the input, and what is
    pending moves along with the state. -/
theorem Undoes.stateless_of_outputFrom (u : Undoes d f Pending) (input : List β) :
    ∀ (q : d.State) (bs : List β) (items : List α), Pending q bs →
      d.outputFrom q input = some items →
      (stateless f).outputFrom () items = some (bs ++ input) := by
  induction input with
  | nil =>
      intro q bs items hp h
      -- The input may end here only if nothing is pending.
      rcases u.finishes q bs items hp h with ⟨rfl, rfl⟩
      simp only [outputFrom, stateless, List.append_nil]
  | cons b rest ih =>
      intro q bs items hp h
      rcases hstep : d.step q b with _ | ⟨q', out⟩
      · simp only [outputFrom, hstep, reduceCtorEq] at h
      rw [outputFrom_cons_of_step d q q' b out rest hstep] at h
      rcases Option.map_eq_some_iff.mp h with ⟨tail, htail, rfl⟩
      rcases u.steps q bs b q' out hp hstep with ⟨rfl, hp'⟩ | ⟨a, rfl, rfl, hblock⟩
      · -- The byte joins what is pending.
        have hrest := ih q' (bs ++ [b]) tail hp' htail
        rw [List.append_assoc, List.singleton_append] at hrest
        exact hrest
      · -- The byte completes a block, and nothing is pending after it.
        have hrest := ih d.start [] tail u.starts htail
        rw [List.nil_append] at hrest
        rw [List.singleton_append, stateless_outputFrom_cons, hblock, Option.bind_some, hrest,
          Option.map_some, List.append_assoc, List.singleton_append]

/-- Writing by blocks and reading are inverse partial functions. -/
theorem Undoes.run_stateless_eq_some_iff (u : Undoes d f Pending) (items : List α) (bs : List β) :
    (stateless f).run items = some bs ↔ d.run bs = some items := by
  rw [run_eq_outputFrom, run_eq_outputFrom]
  constructor
  · exact u.outputFrom_of_stateless items bs
  · intro h
    exact u.stateless_of_outputFrom bs d.start [] items u.starts h

end Undoes

/-- A decoder without memory undoes blocks of one item each, if its table is the inverse of
    theirs. Nothing is ever pending. -/
theorem undoes_of_iff (f : α → Option β) (g : β → Option α)
    (h : ∀ a b, f a = some b ↔ g b = some a) :
    Undoes (stateless fun b => (g b).map ([·])) (fun a => (f a).map ([·]))
      (fun _ bs => bs = []) where
  reads := by
    intro a block hblock rest
    rcases Option.map_eq_some_iff.mp hblock with ⟨b, hb, rfl⟩
    rw [List.singleton_append]
    exact (stateless_outputFrom_cons _ b rest).trans (by rw [(h a b).mp hb]; rfl)
  ends := rfl
  starts := rfl
  steps := by
    intro q bs b q' out hbs hstep
    rcases Option.map_eq_some_iff.mp hstep with ⟨block, hblock, heq⟩
    rcases Option.map_eq_some_iff.mp hblock with ⟨a, ha, rfl⟩
    rcases Prod.ext_iff.mp heq with ⟨-, rfl⟩
    -- Each byte is a whole block.
    refine Or.inr ⟨a, rfl, rfl, ?_⟩
    rw [(h a b).mpr ha, hbs, Option.map_some, List.nil_append]
  finishes := by
    intro q bs out hbs hfinish
    exact ⟨(Option.some.inj hfinish).symm, hbs⟩

/-! ## Reading what was written -/

/-- The state and the output after a part of an input, or `none` where some of it is refused. -/
def reads (t : Transducer α β) : t.State → List α → Option (t.State × List β)
  | q, [] => some (q, [])
  | q, a :: rest =>
    match t.step q a with
    | none => none
    | some (q', out) => (reads t q' rest).map fun (q'', out') => (q'', out ++ out')

theorem reads_cons_of_step (t : Transducer α β) {q q' : t.State} {a : α} {out : List β}
    {rest : List α} (h : t.step q a = some (q', out)) :
    t.reads q (a :: rest) = (t.reads q' rest).map fun (q'', out') => (q'', out ++ out') := by
  simp only [reads, h]

theorem reads_one (t : Transducer α β) {q q' : t.State} {a : α} {out : List β}
    (h : t.step q a = some (q', out)) : t.reads q [a] = some (q', out) := by
  rw [reads_cons_of_step t h, reads]
  simp only [Option.map_some, List.append_nil]

/-- Two items of which only the second is answered. -/
theorem reads_two (t : Transducer α β) {q q₁ q' : t.State} {a b : α} {out : List β}
    (ha : t.step q a = some (q₁, [])) (hb : t.step q₁ b = some (q', out)) :
    t.reads q [a, b] = some (q', out) := by
  rw [reads_cons_of_step t ha, reads_one t hb]
  simp only [Option.map_some, List.nil_append]

theorem reads_append (t : Transducer α β) (part rest : List α) {q q' : t.State} {out : List β}
    (h : t.reads q part = some (q', out)) :
    t.reads q (part ++ rest) = (t.reads q' rest).map fun (q'', out') => (q'', out ++ out') := by
  induction part generalizing q q' out with
  | nil =>
      cases h
      simp only [List.nil_append, Option.map_id']
  | cons a part ih =>
      rcases hstep : t.step q a with _ | ⟨q₁, out₁⟩
      · simp only [reads, hstep, reduceCtorEq] at h
      rw [reads_cons_of_step t hstep] at h
      rcases Option.map_eq_some_iff.mp h with ⟨⟨q₂, out₂⟩, hpart, heq⟩
      cases heq
      rw [List.cons_append, reads_cons_of_step t hstep, ih hpart, Option.map_map]
      simp only [Function.comp_def, List.append_assoc]

/-- A part is read before the rest. -/
theorem outputFrom_append_of_reads (t : Transducer α β) (part rest : List α) :
    ∀ {q q' : t.State} {out : List β}, t.reads q part = some (q', out) →
      t.outputFrom q (part ++ rest) = (t.outputFrom q' rest).map (out ++ ·) := by
  induction part with
  | nil =>
      intro q q' out h
      cases h
      simp only [List.nil_append, Option.map_id']
  | cons a part ih =>
      intro q q' out h
      rcases hstep : t.step q a with _ | ⟨q₁, out₁⟩
      · simp only [reads, hstep, reduceCtorEq] at h
      rw [reads_cons_of_step t hstep] at h
      rcases Option.map_eq_some_iff.mp h with ⟨⟨q₂, out₂⟩, hpart, heq⟩
      cases heq
      rw [List.cons_append, outputFrom_cons_of_step t q q₁ a out₁ _ hstep, ih hpart,
        Option.map_map]
      simp only [Function.comp_def, List.append_assoc]

section Together

variable {γ : Type} {e : Transducer γ β} {d : Transducer β α} {g : γ → α}

/-- What an encoder writes for an item is read as one item, and both machines are again where they
    can go on together. The induction is on the items. -/
theorem outputFrom_of_reads (R : e.State → d.State → Prop)
    (hstep : ∀ q s c q' block, R q s → e.step q c = some (q', block) →
      ∃ s', R q' s' ∧ d.reads s block = some (s', [g c]))
    (hfinish : ∀ q s block, R q s → e.finish q = some block → d.outputFrom s block = some [])
    (items : List γ) :
    ∀ (q : e.State) (s : d.State) (bs : List β), R q s → e.outputFrom q items = some bs →
      d.outputFrom s bs = some (items.map g) := by
  induction items with
  | nil =>
      intro q s bs hq h
      exact hfinish q s bs hq h
  | cons c items ih =>
      intro q s bs hq h
      rcases he : e.step q c with _ | ⟨q', block⟩
      · simp only [outputFrom, he, reduceCtorEq] at h
      rw [outputFrom_cons_of_step e q q' c block items he] at h
      rcases Option.map_eq_some_iff.mp h with ⟨bs', hbs, rfl⟩
      rcases hstep q s c q' block hq he with ⟨s', hq', hreads⟩
      rw [outputFrom_append_of_reads d block bs' hreads, ih q' s' bs' hq' hbs, Option.map_some,
        List.map_cons, List.singleton_append]

/-- The same for a whole text. -/
theorem run_of_reads (R : e.State → d.State → Prop) (hstart : R e.start d.start)
    (hstep : ∀ q s c q' block, R q s → e.step q c = some (q', block) →
      ∃ s', R q' s' ∧ d.reads s block = some (s', [g c]))
    (hfinish : ∀ q s block, R q s → e.finish q = some block → d.outputFrom s block = some [])
    (items : List γ) (bs : List β) (h : e.run items = some bs) :
    d.run bs = some (items.map g) := by
  rw [run_eq_outputFrom] at h ⊢
  exact outputFrom_of_reads R hstep hfinish items _ _ bs hstart h

/-- An encoder without memory needs a decoder that is at its start between any two items. -/
theorem run_stateless_of_reads {f : γ → Option (List β)} (hends : d.finish d.start = some [])
    (hreads : ∀ c block, f c = some block → d.reads d.start block = some (d.start, [g c]))
    (items : List γ) (bs : List β) (h : (stateless f).run items = some bs) :
    d.run bs = some (items.map g) := by
  refine run_of_reads (fun _ s => s = d.start) rfl ?_ ?_ items bs h
  · rintro q s c q' block rfl hstep
    rcases Option.map_eq_some_iff.mp hstep with ⟨_, hblock, heq⟩
    cases heq
    exact ⟨_, rfl, hreads c block hblock⟩
  · rintro q s block rfl hfinish
    cases hfinish
    exact hends

end Together

end Transducer

end BufferFormat
