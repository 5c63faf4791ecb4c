import BufferFormat.Proofs.FileSystem
import BufferFormat.Proofs.Host.Reading

/-!
# From the formatter back to the file

A file host keeps a text in memory and the bytes of it on disk, and the two are changed one after
the other. The module shows that they never part: after every act of the host, whatever the
formatter did and whatever the system refused, the file holds the text in the host's encoding.

Only a replacement changes either of them, and it changes both or none. It encodes first, then
writes, and keeps the new text last, so whatever fails on the way leaves everything as it was. A
formatted text was decoded from what the formatter printed, and in an exact encoding it is encoded
to the same bytes again. The file therefore receives the formatter's output, byte by byte.

The acts of a host meet a world that may have changed in any way since the act before. All that is
asked is that the file was left alone.

## Main definitions

* `FileHost.Event`, `FileHost.Act`: What a host is asked to do, and what it meets.
* `FileHost.act`, `FileHost.after`: One act, and sequences of acts.
* `FileHost.Undisturbed`: Nobody else writes the file between the acts.
* `FileHost.Synced`: The file holds the text.
* `FileHost.Puts`, `FileHost.Acting`: A text that was put into a host, and what an act can do.
* `FileHost.Effect`: What an act does to the file and the text.
* `FileHost.latin1`: A host on a file in Latin-1.

## Theorems

* `FileHost.replaceTextUnder_cases`: A replacement changes everything or nothing.
* `FileHost.runUnder_cases`: A run replaces the text by what was printed, or changes nothing.
* `FileHost.acting_act`: An act replaces the text or leaves everything as it was.
* `FileHost.Acting.effect`, `FileHost.Acting.synced`: What that does to the file, and that file and
  text stay together.
* `FileHost.synced_after`, `FileHost.readFile_after_of_stdout`: The same for all acts.
* `FileHost.acts_effects`: All of it together, for a host that was opened on a file.
-/

namespace BufferFormat

/-- What is printed goes to standard output, and nothing else is done. -/
theorem Refusals.print_eq_ok {r : Refusals} {bytes : List UInt8} {effects : Effects}
    (h : r.print bytes = .ok effects) : effects = { stdout := bytes } := by
  unfold print at h
  cases hrefusal : r.output with
  | some fault =>
      rw [hrefusal] at h
      cases h
  | none =>
      rw [hrefusal] at h
      cases h
      rfl

namespace FileHost

-- As in memory, what a request needs is known by its own lemma and need not be evaluated.
attribute [local irreducible] prepare

/-! ## Acts -/

/-- What a host is asked to do. -/
inductive Event where
  /-- Format the buffer, or show a diff of it. -/
  | run (config : Config) (platform : Platform) (mode : Mode)
  | replace (text : String)
  | notify (message : String)
  | openPanel (label text : String)
  | finish (applied : Applied)

/-- Something that a host is asked to do, with all that it meets. -/
structure Act where
  /-- The world as the act finds it. -/
  world : World
  /-- What the formatter does, should it be started. -/
  start : Formatter.Starter
  /-- What the system refuses. -/
  refusals : Refusals
  event : Event

/-- What is left where an event prints and does nothing else. -/
def printed (h : FileHost) (w : World) : Except Fault Effects → Step (Option Applied)
  | .error fault => ⟨h, w, .none, .error fault⟩
  | .ok effects => ⟨h, w, effects, .ok none⟩

/-- Carry out an act. Only runs come to something that is told. -/
def act (h : FileHost) (a : Act) : Step (Option Applied) :=
  match a.event with
  | .run config platform mode =>
    let step := h.runUnder a.start a.refusals a.world config platform mode
    ⟨step.host, step.world, step.effects, step.result.map some⟩
  | .replace text =>
    let step := h.replaceTextUnder a.refusals a.world text
    ⟨step.host, step.world, step.effects, step.result.map fun _ => none⟩
  | .notify message => h.printed a.world (.ok (h.notify message))
  | .openPanel label text => h.printed a.world (h.openPanelUnder a.refusals label text)
  | .finish applied => h.printed a.world (h.finishUnder a.refusals applied)

/-- Where the system refuses nothing and starts the formatter that the world holds, a run is the run
    of the host. -/
theorem act_run (h : FileHost) (w : World) (config : Config) (platform : Platform)
    (mode : Mode) :
    h.act ⟨w, (Formatter.start w · platform), .none, .run config platform mode⟩ =
      { h.run w config platform mode with
        result := (h.run w config platform mode).result.map some } :=
  rfl

/-- The same for a replacement. -/
theorem act_replace (start : Formatter.Starter) (h : FileHost) (w : World) (text : String) :
    h.act ⟨w, start, .none, .replace text⟩ =
      { h.replaceText w text with result := (h.replaceText w text).result.map fun _ => none } :=
  rfl

/-- The same for a text that is shown. -/
theorem act_openPanel (start : Formatter.Starter) (h : FileHost) (w : World)
    (label text : String) :
    h.act ⟨w, start, .none, .openPanel label text⟩ =
      ⟨h, w, h.openPanel label text, .ok none⟩ :=
  rfl

/-- The host and the world after a sequence of acts. -/
def after (h : FileHost) (w : World) : List Act → FileHost × World
  | [] => (h, w)
  | a :: acts => (h.act a).host.after (h.act a).world acts

/-- Between the acts nobody else writes the file: each act finds in it what the one before left. -/
def Undisturbed (path : Path) (h : FileHost) (w : World) : List Act → Prop
  | [] => True
  | a :: acts =>
    a.world.readFile path = w.readFile path ∧
      (h.act a).host.Undisturbed path (h.act a).world acts

/-! ## What an act does -/

/-- A host with a path that writes in place sends the bytes to its file. -/
theorem replaceTextUnder_of_file (r : Refusals) (h : FileHost) (w : World) (text : String)
    (bytes : List UInt8) (path : Path) (henc : encodeText text h.encoding = .ok bytes)
    (hpath : h.path = some path) (hout : h.output = .inPlace) :
    h.replaceTextUnder r w text =
      match w.writeFileUnless r.file path bytes with
      | .error fault => ⟨h, w, .none, .error (.during ("failed to write " ++ path.text) fault)⟩
      | .ok w' => ⟨{ h with text, replaced := true }, w', .none, .ok ()⟩ := by
  unfold replaceTextUnder
  cases hwrite : w.writeFileUnless r.file path bytes with
  | error fault => simp only [henc, hpath, hout, hwrite]
  | ok w' => simp only [henc, hpath, hout, hwrite]

/-- Every other host sends them to standard output. -/
theorem replaceTextUnder_of_not_file (r : Refusals) (h : FileHost) (w : World) (text : String)
    (bytes : List UInt8) (henc : encodeText text h.encoding = .ok bytes)
    (hnone : h.output = .inPlace → h.path = none) :
    h.replaceTextUnder r w text =
      match r.print bytes with
      | .error fault => ⟨h, w, .none, .error fault⟩
      | .ok effects => ⟨{ h with text, replaced := true }, w, effects, .ok ()⟩ := by
  rcases h with ⟨path, old, encoding, output, silent, replaced⟩
  unfold replaceTextUnder
  rw [henc]
  cases output with
  | inPlace =>
      obtain rfl : path = none := hnone rfl
      rfl
  | stdout =>
      cases path with
      | none => rfl
      | some path => rfl

/-- A text was put into a host. If the host writes to a file, the encoded text is in it; if it
    prints, no file was touched. -/
structure Puts (h : FileHost) (w : World) (text : String) (w' : World) : Prop where
  encoded : ∃ bytes, encodeText text h.encoding = .ok bytes ∧
    ∀ path, h.path = some path → h.output = .inPlace → w'.readFile path = .ok bytes
  printed : h.output = .stdout → w' = w

/-- A replacement puts the text, or it fails and leaves everything as it was. -/
theorem replaceTextUnder_cases (r : Refusals) (h : FileHost) (w : World) (text : String) :
    (∃ fault, h.replaceTextUnder r w text = ⟨h, w, .none, .error fault⟩) ∨
      ∃ w' effects, h.Puts w text w' ∧
        h.replaceTextUnder r w text =
          ⟨{ h with text, replaced := true }, w', effects, .ok ()⟩ := by
  cases henc : encodeText text h.encoding with
  | error fault =>
      refine Or.inl ⟨fault, ?_⟩
      unfold replaceTextUnder
      simp only [henc]
  | ok bytes =>
      by_cases hfile : ∃ path, h.path = some path ∧ h.output = .inPlace
      · rcases hfile with ⟨path, hpath, hout⟩
        rw [replaceTextUnder_of_file r h w text bytes path henc hpath hout]
        -- The text is kept only if the file was written.
        cases hwrite : w.writeFileUnless r.file path bytes with
        | error fault => exact Or.inl ⟨_, rfl⟩
        | ok w' =>
            refine Or.inr ⟨w', .none, ⟨⟨bytes, henc, fun p hp _ => ?_⟩, fun h' => ?_⟩, rfl⟩
            · rw [hpath] at hp
              cases hp
              exact World.readFile_of_writeFileUnless hwrite
            · rw [hout] at h'
              cases h'
      · have hnone : h.output = .inPlace → h.path = none := by
          intro hout
          cases hpath : h.path with
          | none => rfl
          | some path => exact absurd ⟨path, hpath, hout⟩ hfile
        rw [replaceTextUnder_of_not_file r h w text bytes henc hnone]
        cases hprint : r.print bytes with
        | error fault => exact Or.inl ⟨fault, rfl⟩
        | ok effects =>
            refine Or.inr ⟨w, effects, ⟨⟨bytes, henc, fun p hp hout => ?_⟩, fun _ => rfl⟩, rfl⟩
            rw [hnone hout] at hp
            cases hp

/-- A run that stopped leaves everything as it was. -/
theorem runUnder_of_error (start : Formatter.Starter) (r : Refusals) (h : FileHost) (w : World)
    (config : Config) (platform : Platform) (mode : Mode) (fault : Fault)
    (ha : (attemptWith start w config platform (h.view w) mode).action = .error fault) :
    ∃ effects, h.runUnder start r w config platform mode = ⟨h, w, effects, .error fault⟩ := by
  unfold runUnder
  simp only [ha]
  exact ⟨_, rfl⟩

/-- A run that came to an action carries it out. -/
theorem runUnder_of_ok (start : Formatter.Starter) (r : Refusals) (h : FileHost) (w : World)
    (config : Config) (platform : Platform) (mode : Mode) (action : Action)
    (ha : (attemptWith start w config platform (h.view w) mode).action = .ok action) :
    ∃ started : Effects, h.runUnder start r w config platform mode =
      { h.performUnder r w action with
        effects := started.andThen (h.performUnder r w action).effects } := by
  unfold runUnder
  simp only [ha]
  exact ⟨_, rfl⟩

/-- A run that does not reformat leaves host and world as they were, whether it failed or not. A run
    that does replaces the text with what the formatter printed. -/
theorem runUnder_cases (start : Formatter.Starter) (r : Refusals) (h : FileHost) (w : World)
    (config : Config) (platform : Platform) (mode : Mode) :
    (∃ effects result, result ≠ .ok .reformatted ∧
      h.runUnder start r w config platform mode = ⟨h, w, effects, result⟩) ∨
      ∃ prepared outcome text w' effects, mode = .format ∧
        Answered start w config platform (h.view w) mode prepared outcome ∧
        decodeBytes outcome.stdout prepared.encoding = .ok text ∧ h.Puts w text w' ∧
        h.runUnder start r w config platform mode =
          ⟨{ h with text, replaced := true }, w', effects, .ok .reformatted⟩ := by
  cases ha : (attemptWith start w config platform (h.view w) mode).action with
  | error fault =>
      rcases runUnder_of_error start r h w config platform mode fault ha with ⟨effects, hrun⟩
      exact Or.inl ⟨effects, .error fault, nofun, hrun⟩
  | ok action =>
      rcases (attemptWith_action_eq_ok_iff _ _ _ _ _ _ _).mp ha with
        ⟨prepared, outcome, hanswered, hcalls⟩
      rcases runUnder_of_ok start r h w config platform mode action ha with ⟨started, hrun⟩
      cases hcalls with
      | reject hfail => exact Or.inl ⟨_, .ok (.rejected outcome.status), nofun, hrun⟩
      | keep hok hsame => exact Or.inl ⟨_, .ok .unchanged, nofun, hrun⟩
      | showDiff text hok hchange hmode htext =>
          rw [performUnder] at hrun
          cases hpanel : h.openPanelUnder r (diffLabel (h.view w).file) text with
          | error fault =>
              rw [hpanel] at hrun
              exact Or.inl ⟨_, .error fault, nofun, hrun⟩
          | ok effects =>
              rw [hpanel] at hrun
              exact Or.inl ⟨_, .ok .diffShown, nofun, hrun⟩
      | replace text hok hchange hmode htext =>
          rw [performUnder] at hrun
          rcases replaceTextUnder_cases r h w text with
            ⟨fault, hstep⟩ | ⟨w', effects, hputs, hstep⟩
          · rw [hstep] at hrun
            exact Or.inl ⟨_, .error fault, nofun, hrun⟩
          · rw [hstep] at hrun
            exact Or.inr ⟨prepared, outcome, text, w', _, hmode, hanswered, htext, hputs, hrun⟩

/-- What an act can do: put a text, in one of two ways, or leave host and world as they were. -/
inductive Acting (h : FileHost) (a : Act) : Step (Option Applied) → Prop where
  /-- The formatter changed the text. -/
  | formatted (config : Config) (platform : Platform) (prepared : Prepared) (outcome : Outcome)
      (text : String) (w' : World) (effects : Effects)
      (hevent : a.event = .run config platform .format)
      (hanswered : Answered a.start a.world config platform (h.view a.world) .format prepared
        outcome)
      (hdecoded : decodeBytes outcome.stdout prepared.encoding = .ok text)
      (hputs : h.Puts a.world text w') :
      Acting h a ⟨{ h with text, replaced := true }, w', effects, .ok (some .reformatted)⟩
  /-- The text was replaced from outside. -/
  | replaced (text : String) (w' : World) (effects : Effects) (hevent : a.event = .replace text)
      (hputs : h.Puts a.world text w') :
      Acting h a ⟨{ h with text, replaced := true }, w', effects, .ok none⟩
  /-- Nothing was replaced, because nothing should be or because something failed. -/
  | kept (effects : Effects) (result : Except Fault (Option Applied))
      (hformatted : result ≠ .ok (some .reformatted))
      (hreplaced : ∀ text, a.event = .replace text → ∃ fault, result = .error fault) :
      Acting h a ⟨h, a.world, effects, result⟩

/-- An event that only prints keeps everything. -/
theorem acting_printed (h : FileHost) (a : Act) (printing : Except Fault Effects)
    (hevent : ∀ text, a.event ≠ .replace text) : h.Acting a (h.printed a.world printing) := by
  cases printing with
  | error fault => exact .kept .none (.error fault) nofun fun text ht => absurd ht (hevent text)
  | ok effects => exact .kept effects (.ok none) nofun fun text ht => absurd ht (hevent text)

/-- Each act does one of these. -/
theorem acting_act (h : FileHost) (a : Act) : h.Acting a (h.act a) := by
  unfold act
  -- The events that only print have no way to the text or to the file.
  cases hevent : a.event with
  | run config platform mode =>
      rcases runUnder_cases a.start a.refusals h a.world config platform mode with
        ⟨effects, result, hresult, hstep⟩ |
        ⟨prepared, outcome, text, w', effects, hmode, hanswered, hdecoded, hputs, hstep⟩
      · simp only [hstep]
        refine .kept effects _ ?_ fun text ht => ?_
        · cases result with
          | error fault => nofun
          | ok applied =>
              intro h
              exact hresult (by cases h; rfl)
        · rw [hevent] at ht
          cases ht
      · -- Only a format can come to a new text, so the mode is known.
        subst hmode
        simp only [hstep]
        exact .formatted config platform prepared outcome text w' effects hevent hanswered hdecoded
          hputs
  | replace text =>
      rcases replaceTextUnder_cases a.refusals h a.world text with
        ⟨fault, hstep⟩ | ⟨w', effects, hputs, hstep⟩
      · simp only [hstep]
        exact .kept .none _ nofun fun _ _ => ⟨fault, rfl⟩
      · simp only [hstep]
        exact .replaced text w' effects hevent hputs
  | notify message => exact h.acting_printed a _ fun text => by rw [hevent]; nofun
  | openPanel label text => exact h.acting_printed a _ fun text => by rw [hevent]; nofun
  | finish applied => exact h.acting_printed a _ fun text => by rw [hevent]; nofun

/-- Only text and file are ever changed. -/
theorem Acting.surroundings {h : FileHost} {a : Act} {s : Step (Option Applied)}
    (ha : h.Acting a s) :
    s.host.encoding = h.encoding ∧ s.host.path = h.path ∧ s.host.output = h.output := by
  cases ha with
  | formatted => exact ⟨rfl, rfl, rfl⟩
  | replaced => exact ⟨rfl, rfl, rfl⟩
  | kept => exact ⟨rfl, rfl, rfl⟩

/-- A host that prints changes no file. -/
theorem Acting.world_eq {h : FileHost} {a : Act} {s : Step (Option Applied)} (ha : h.Acting a s)
    (hout : h.output = .stdout) : s.world = a.world := by
  cases ha with
  | formatted _ _ _ _ _ _ _ _ _ _ hputs => exact hputs.printed hout
  | replaced _ _ _ _ hputs => exact hputs.printed hout
  | kept => rfl

/-! ## File and text -/

/-- The file of a host that writes in place holds its text, in its encoding. -/
structure Synced (path : Path) (h : FileHost) (w : World) : Prop where
  path_eq : h.path = some path
  output_eq : h.output = .inPlace
  disk : ∃ bytes, w.readFile path = .ok bytes ∧ encodeText h.text h.encoding = .ok bytes

/-- What an act does to the file and the text of a host that writes in place. A format that comes
    to a new text leaves in the file what the formatter printed. A text that was put from outside is
    in the file. Nothing else changes anything. -/
def Effect (path : Path) (h : FileHost) (a : Act) (s : Step (Option Applied)) : Prop :=
  match a.event, s.result with
  | .run config platform mode, .ok (some .reformatted) =>
    mode = .format ∧ ∃ prepared outcome,
      Answered a.start a.world config platform (h.view a.world) mode prepared outcome ∧
      s.world.readFile path = .ok outcome.stdout ∧
      decodeBytes outcome.stdout h.encoding = .ok s.host.text
  | .replace text, .ok _ =>
    (∃ bytes, encodeText text h.encoding = .ok bytes ∧ s.world.readFile path = .ok bytes) ∧
      s.host.text = text
  | _, _ => s.host = h ∧ s.world = a.world

section Exact

variable {path : Path} {h : FileHost} {w : World} {a : Act} {s : Step (Option Applied)}
  {e : Encoding}

/-- In an exact encoding, a text that was decoded is written as the bytes it was decoded from. -/
theorem Puts.readFile_eq {text : String} {w' : World} {bytes : List UInt8}
    (hputs : h.Puts w text w') (hl : Encoding.lookup h.encoding = .ok e) (he : e.IsExact)
    (hpath : h.path = some path) (hout : h.output = .inPlace)
    (hd : decodeBytes bytes h.encoding = .ok text) : w'.readFile path = .ok bytes := by
  rcases hputs.encoded with ⟨written, hwritten, hread⟩
  rw [hread path hpath hout]
  -- What was written encodes the text, and so does what was decoded.
  rw [(encodeText_eq_ok_iff_of_isExact hl he text bytes).mpr hd] at hwritten
  exact hwritten.symm

/-- What a run decodes is what the host's own label would decode it to. -/
theorem decodeBytes_of_answered {start : Formatter.Starter} {config : Config}
    {platform : Platform} {mode : Mode} {prepared : Prepared} {outcome : Outcome} {text : String}
    (hl : Encoding.lookup h.encoding = .ok e)
    (hanswered : Answered start w config platform (h.view w) mode prepared outcome)
    (hd : decodeBytes outcome.stdout prepared.encoding = .ok text) :
    decodeBytes outcome.stdout h.encoding = .ok text := by
  have hlabel := encoding_of_prepare w config platform (h.view w) mode prepared hanswered.1
  rw [hlabel, negotiate_view h w config e hl] at hd
  exact (decodeBytes_trim h.encoding e hl outcome.stdout text).mp hd

/-- What one act does to the file and the text. -/
theorem Acting.effect (ha : h.Acting a s) (hl : Encoding.lookup h.encoding = .ok e)
    (he : e.IsExact) (hpath : h.path = some path) (hout : h.output = .inPlace) :
    h.Effect path a s := by
  cases ha with
  | formatted config platform prepared outcome text w' effects hevent hanswered hdecoded hputs =>
      have hd := decodeBytes_of_answered hl hanswered hdecoded
      unfold Effect
      rw [hevent]
      exact ⟨rfl, prepared, outcome, hanswered, hputs.readFile_eq hl he hpath hout hd, hd⟩
  | replaced text w' effects hevent hputs =>
      rcases hputs.encoded with ⟨bytes, hbytes, hread⟩
      unfold Effect
      rw [hevent]
      exact ⟨⟨bytes, hbytes, hread path hpath hout⟩, rfl⟩
  | kept effects result hformatted hreplaced =>
      -- Both ways to change something are excluded, and the last line of the match remains.
      unfold Effect
      split
      · rename_i hresult
        exact absurd hresult hformatted
      · rename_i hevent hresult
        rcases hreplaced _ hevent with ⟨fault, hfault⟩
        rw [hfault] at hresult
        cases hresult
      · exact ⟨rfl, rfl⟩

/-- An act that finds text and file together leaves them together. -/
theorem Acting.synced (ha : h.Acting a s) (hs : h.Synced path w)
    (hfound : a.world.readFile path = w.readFile path) : s.host.Synced path s.world := by
  cases ha with
  | formatted config platform prepared outcome text w' effects hevent hanswered hdecoded hputs =>
      rcases hputs.encoded with ⟨bytes, hbytes, hread⟩
      exact ⟨hs.path_eq, hs.output_eq, bytes, hread path hs.path_eq hs.output_eq, hbytes⟩
  | replaced text w' effects hevent hputs =>
      rcases hputs.encoded with ⟨bytes, hbytes, hread⟩
      exact ⟨hs.path_eq, hs.output_eq, bytes, hread path hs.path_eq hs.output_eq, hbytes⟩
  | kept effects result hformatted hreplaced =>
      rcases hs.disk with ⟨bytes, hbytes, hencoded⟩
      exact ⟨hs.path_eq, hs.output_eq, bytes, hfound.trans hbytes, hencoded⟩

end Exact

/-! ## Sequences of acts -/

/-- Neither the encoding nor the file that a host is for ever changes. -/
theorem after_surroundings (h : FileHost) (w : World) (acts : List Act) :
    (h.after w acts).1.encoding = h.encoding ∧ (h.after w acts).1.path = h.path ∧
      (h.after w acts).1.output = h.output := by
  induction acts generalizing h w with
  | nil => exact ⟨rfl, rfl, rfl⟩
  | cons a acts ih =>
      rcases (h.acting_act a).surroundings with ⟨hencoding, hpath, houtput⟩
      rcases ih (h.act a).host (h.act a).world with ⟨ihencoding, ihpath, ihoutput⟩
      exact ⟨ihencoding.trans hencoding, ihpath.trans hpath, ihoutput.trans houtput⟩

/-- As long as nobody else writes the file, it holds the text after all acts. -/
theorem synced_after (path : Path) (h : FileHost) (w : World) (acts : List Act)
    (hs : h.Synced path w) (hquiet : h.Undisturbed path w acts) :
    (h.after w acts).1.Synced path (h.after w acts).2 := by
  induction acts generalizing h w with
  | nil => exact hs
  | cons a acts ih =>
      rcases hquiet with ⟨hfound, hrest⟩
      exact ih _ _ ((h.acting_act a).synced hs hfound) hrest

/-- A host that prints leaves the file as it was, unless somebody else writes it. -/
theorem readFile_after_of_stdout (path : Path) (h : FileHost) (w : World) (acts : List Act)
    (hout : h.output = .stdout) (hquiet : h.Undisturbed path w acts) :
    (h.after w acts).2.readFile path = w.readFile path := by
  induction acts generalizing h w with
  | nil => rfl
  | cons a acts ih =>
      rcases hquiet with ⟨hfound, hrest⟩
      have hacting := h.acting_act a
      -- The host still prints after the act, which itself changed no file.
      have hout' : (h.act a).host.output = .stdout := hacting.surroundings.2.2.trans hout
      rw [after, ih _ _ hout' hrest, hacting.world_eq hout]
      exact hfound

/-- A host that was opened on a file in an exact encoding starts out with its text in the file. -/
theorem synced_of_openFile {w : World} {path : Path} {declared : Option String}
    {default : String} {h : FileHost} {e : Encoding}
    (hopen : openFile w path declared default .inPlace = .ok h)
    (hl : Encoding.lookup h.encoding = .ok e) (he : e.IsExact) : h.Synced path w := by
  rcases openFile_eq_ok hopen with ⟨bytes, hread, hbytes⟩
  rcases ofBytes_eq_ok hbytes with ⟨hd, hpath, hout⟩
  exact ⟨hpath, hout, bytes, hread, (encodeText_eq_ok_iff_of_isExact hl he h.text bytes).mpr hd⟩

/-- What a host that was opened on a file does to it, over any acts between which nobody else writes
    the file. The encoding stays. A host that prints never touches the file. For a host that writes
    in place in an exact encoding, the file holds the text after all acts, and the next act changes
    both in the way that its result says, or neither. -/
theorem acts_effects (w : World) (path : Path) (declared : Option String) (default : String)
    (output : Output) (silent : Bool) (opened : FileHost)
    (hopen : openFile w path declared default output = .ok opened) (acts : List Act)
    (hquiet : { opened with silent }.Undisturbed path w acts) :
    let h := ({ opened with silent }.after w acts).1
    let w' := ({ opened with silent }.after w acts).2
    h.encoding = opened.encoding ∧
      (output = .stdout →
        w'.readFile path = w.readFile path ∧ ∀ a, (h.act a).world = a.world) ∧
      (output = .inPlace → ∀ e, Encoding.lookup opened.encoding = .ok e → e.IsExact →
        (∃ bytes, w'.readFile path = .ok bytes ∧ encodeText h.text h.encoding = .ok bytes) ∧
          ∀ a, h.Effect path a (h.act a)) := by
  intro h w'
  rcases openFile_eq_ok hopen with ⟨bytes, _, hbytes⟩
  rcases ofBytes_eq_ok hbytes with ⟨_, _, houtput⟩
  rcases after_surroundings { opened with silent } w acts with ⟨hencoding, _, hout⟩
  refine ⟨hencoding, fun hstdout => ?_, fun hinPlace e hl he => ?_⟩
  · subst hstdout
    have hprints : h.output = .stdout := hout.trans houtput
    exact ⟨readFile_after_of_stdout path { opened with silent } w acts houtput hquiet,
      fun a => (h.acting_act a).world_eq hprints⟩
  · subst hinPlace
    have hstart := synced_of_openFile hopen hl he
    have hs := synced_after path { opened with silent } w acts
      ⟨hstart.path_eq, hstart.output_eq, hstart.disk⟩ hquiet
    have hl' : Encoding.lookup h.encoding = .ok e := (congrArg Encoding.lookup hencoding).trans hl
    exact ⟨hs.disk, fun a => (h.acting_act a).effect hl' he hs.path_eq hs.output_eq⟩

/-! ## A file in Latin-1 -/

/-- A host on a file in Latin-1. -/
def latin1 : FileHost :=
  ⟨some ⟨"/a.py"⟩, "xé", "latin-1", .inPlace, false, false⟩

/-- Whatever formatter corrects its text, the new text is in the file and is told. -/
theorem act_latin1 (start : Formatter.Starter)
    (haction : (attemptWith start (.holding ["a.py"] [0x78, 0xE9]) {} .unix
      (latin1.view (.holding ["a.py"] [0x78, 0xE9])) .format).action = .ok (.replace "yé")) :
    ∃ effects,
      latin1.act ⟨.holding ["a.py"] [0x78, 0xE9], start, .none, .run {} .unix .format⟩ =
        ⟨{ latin1 with text := "yé", replaced := true }, .holding ["a.py"] [0x79, 0xE9], effects,
          .ok (some .reformatted)⟩ := by
  have hwrite : (World.holding ["a.py"] [0x78, 0xE9]).writeFileUnless none ⟨"/a.py"⟩
      [0x79, 0xE9] = .ok (.holding ["a.py"] [0x79, 0xE9]) := World.writeFile_holding _ _
  have hstep : latin1.replaceTextUnder .none (.holding ["a.py"] [0x78, 0xE9]) "yé" =
      ⟨{ latin1 with text := "yé", replaced := true }, .holding ["a.py"] [0x79, 0xE9], .none,
        .ok ()⟩ := by
    rw [replaceTextUnder_of_file .none latin1 _ "yé" [0x79, 0xE9] ⟨"/a.py"⟩ rfl rfl rfl,
      show Refusals.none.file = none from rfl, hwrite]
  rcases runUnder_of_ok start .none latin1 (.holding ["a.py"] [0x78, 0xE9]) {} .unix .format _
    haction with ⟨started, hrun⟩
  rw [performUnder, hstep] at hrun
  unfold act
  simp only [hrun]
  exact ⟨_, rfl⟩

/-- A formatter that prints the same bytes for every buffer and says that it changed it. -/
def reformatting (stdout : List UInt8) : Formatter.Starter := fun r =>
  .ok (⟨[], r.env, [], r.input⟩, ⟨0, stdout, Utf8.encode "reformatted".toList⟩)

/-- The file in Latin-1 is formatted in place: the run is told as a replacement, and afterwards the
    file holds what the formatter printed, which is the new text. -/
theorem acts_effects_latin1 :
    let a : Act := ⟨.holding ["a.py"] [0x78, 0xE9], reformatting [0x79, 0xE9], .none,
      .run {} .unix .format⟩
    openFile (.holding ["a.py"] [0x78, 0xE9]) ⟨"/a.py"⟩ (some "latin-1") "utf-8" .inPlace =
        .ok latin1 ∧
      latin1.Undisturbed ⟨"/a.py"⟩ (.holding ["a.py"] [0x78, 0xE9]) [a] ∧
      (latin1.act a).result = .ok (some .reformatted) ∧
      (latin1.act a).world.readFile ⟨"/a.py"⟩ = .ok [0x79, 0xE9] ∧
      (latin1.act a).host.text = "yé" ∧
      ∃ bytes,
        (latin1.after (.holding ["a.py"] [0x78, 0xE9]) [a]).2.readFile ⟨"/a.py"⟩ = .ok bytes ∧
        encodeText (latin1.after (.holding ["a.py"] [0x78, 0xE9]) [a]).1.text "latin-1" =
          .ok bytes := by
  intro a
  have hopen : openFile (.holding ["a.py"] [0x78, 0xE9]) ⟨"/a.py"⟩ (some "latin-1") "utf-8"
      .inPlace = .ok latin1 := by
    rw [openFile, World.readFile_holding]
    rfl
  have hl : Encoding.lookup "latin-1" = .ok (.codePage .windows1252) := by rfl
  rcases act_latin1 (reformatting [0x79, 0xE9]) (by decide +kernel) with ⟨effects, hact⟩
  have heffects := acts_effects (.holding ["a.py"] [0x78, 0xE9]) ⟨"/a.py"⟩ (some "latin-1")
    "utf-8" .inPlace false latin1 hopen [a] ⟨rfl, trivial⟩
  rcases heffects.2.2 rfl (.codePage .windows1252) hl trivial with ⟨⟨bytes, hread, henc⟩, _⟩
  rw [heffects.1] at henc
  refine ⟨hopen, ⟨rfl, trivial⟩, ?_, ?_, ?_, bytes, hread, henc⟩
  · rw [hact]
  · rw [hact]
    exact World.readFile_holding _
  · rw [hact]

end FileHost

end BufferFormat
