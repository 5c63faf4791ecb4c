import BufferFormat.Proofs.Batch.Ending
import BufferFormat.Proofs.Batch.Frame
import BufferFormat.Proofs.Batch.Report
import BufferFormat.Proofs.Batch.Walk
import BufferFormat.Proofs.FileSystem.Evaluation
import Mathlib.Data.List.Perm.Basic

/-!
# Files that are listed twice

The list of files is put together from the arguments, and nothing looks for repetitions. So a file
is in the list once for each argument that covers it, be it that the argument names the file or a
directory from which the walk comes to it. Within one directory a walk comes to a place once, unless
it follows a link: the names on the way are different each time, and without links different names
lead to different places.

What is told apart are the places to which paths lead. They stand for the files as long as there are
no hard links, which a list of paths would not show and which the file systems here do not have.
With them a file may be listed twice under two names that lead to two places.

Files that are listed once keep their runs apart. Whatever the order of the steps is, what a run
writes is its own file, and that is the file of no other run. And as the tally counts the runs, it
counts every file once.

## Main definitions

* `World.Covers`: A file that an argument brings into the list.
* `World.ViaLink`: A file to which a walk came by way of a link.
* `Batch.stillOpen`: How many runs the tally has not counted yet.
* `overlapWorld`: A world with a link beside its file.

## Theorems

* `World.pairwise_filesOf?`: What one argument repeats it came to by way of a link.
* `World.exists_mem_filesOf?_iff`: The places that an argument brings into the list.
* `Batch.sameAt_advance`: A step of one run changes nothing at the files of the others.
* `Batch.total_follow`: The tally counts every run once.
* `World.collect_repetitions`: When a file is listed twice, and what it means if none is.
-/

namespace BufferFormat

namespace World

/-- An argument brings a file into the list by naming it, or by naming a directory from which the
    walk comes to it. -/
def Covers (w : World) (depth : Nat) (input : Path) (loc : Location) : Prop :=
  (∃ data executable, w.files.resolve w.cwd input = .ok (loc, .file data executable)) ∨
    ∃ dir names, w.files.resolve w.cwd input = .ok (dir, .dir) ∧ loc = dir ++ names ∧
      w.files.ModuleBelow depth dir names

/-- A path goes down from the directory that an argument names, and a link is on the way. -/
def ViaLink (w : World) (input p : Path) : Prop :=
  ∃ loc names, w.files.reach w.cwd input = .ok loc ∧ p = input.below names ∧
    w.files.LinkOn loc names

variable {w : World}

/-! ## One argument -/

/-- Of two paths below one directory that lead to one file, one goes by way of a link. -/
theorem pairwise_filesBelow (h : w.files.Tree) (depth : Nat) {input : Path} {loc : Location}
    (hreach : w.files.reach w.cwd input = .ok loc) :
    (w.filesBelow depth [] loc input).Pairwise fun p q =>
      w.SameFile p q → w.ViaLink input p ∨ w.ViaLink input q := by
  have hleads : ∀ way ∈ w.waysBelow depth [] loc, ¬w.files.LinkOn loc way.1 →
      w.files.reach w.cwd (input.below way.1) = .ok (loc ++ way.1) := by
    intro way hway hplain
    rcases ((mem_waysBelow_iff h depth [] way.2 hplain).mp hway).2.2.1 with ⟨_, _, hfile⟩
    exact h.reach_below hreach hfile hplain
  rw [filesBelow_eq_below h, List.map_map, List.pairwise_map]
  refine (pairwise_waysBelow h depth [] loc).imp_of_mem fun {way other} hway hother hne hsame => ?_
  by_cases hlink : w.files.LinkOn loc way.1
  · exact Or.inl ⟨loc, way.1, hreach, rfl, hlink⟩
  · by_cases hlink' : w.files.LinkOn loc other.1
    · exact Or.inr ⟨loc, other.1, hreach, rfl, hlink'⟩
    · -- Without a link, both ways lead to the place that their names spell.
      rcases hsame with ⟨l, hl, hl'⟩
      have hway := hl.symm.trans (hleads way hway hlink)
      have hother := hl'.symm.trans (hleads other hother hlink')
      exact absurd (List.append_cancel_left (Except.ok.inj (hway.symm.trans hother))) hne

/-- Of two paths that one argument brings into the list and that lead to one file, one goes by way
    of a link. -/
theorem pairwise_filesOf? (h : w.files.Tree) (depth : Nat) (input : Path) :
    ((w.filesOf? depth input).getD []).Pairwise fun p q =>
      w.SameFile p q → w.ViaLink input p ∨ w.ViaLink input q := by
  unfold filesOf?
  split
  · exact List.pairwise_singleton _ _
  · rename_i hresolve
    exact pairwise_filesBelow h depth ((FileSystem.resolve_eq_ok_iff _ _ _ _ _).mp hresolve).1
  · exact .nil

/-- Without links, what an argument brings into the list leads to the files that it covers. -/
theorem exists_mem_filesOf?_iff (h : w.files.Tree) (hlinks : w.files.Unlinked) (depth : Nat)
    (input : Path) (loc : Location) :
    (∃ p ∈ (w.filesOf? depth input).getD [], w.files.reach w.cwd p = .ok loc) ↔
      w.Covers depth input loc := by
  unfold filesOf? Covers
  cases hresolve : w.files.resolve w.cwd input with
  | error e =>
      refine iff_of_false ?_ ?_
      · rintro ⟨_, hmem, _⟩
        cases hmem
      · rintro (⟨_, _, heq⟩ | ⟨_, _, heq, _⟩) <;> cases heq
  | ok found =>
      rcases found with ⟨place, e⟩
      have hreach := ((FileSystem.resolve_eq_ok_iff _ _ _ _ _).mp hresolve).1
      cases e with
      | file data executable =>
          simp only [Option.getD_some, List.mem_singleton, exists_eq_left, hreach,
            Except.ok.injEq, Prod.mk.injEq, reduceCtorEq, and_false, false_and, exists_false,
            or_false, Entry.file.injEq, exists_and_left, exists_eq', and_true]
      | dir =>
          rcases exists_found h hlinks depth hreach with ⟨found, hfound, _, hmem, hleads⟩
          simp only [Option.getD_some, hfound, List.mem_map, Except.ok.injEq, Prod.mk.injEq,
            reduceCtorEq, and_false, exists_false, false_or, and_true]
          constructor
          · rintro ⟨_, ⟨names, hnames, rfl⟩, hloc⟩
            rw [hleads names hnames] at hloc
            exact ⟨place, names, rfl, (Except.ok.inj hloc).symm, (hmem names).mp hnames⟩
          · rintro ⟨_, names, rfl, rfl, hmodule⟩
            have hnames := (hmem names).mpr hmodule
            exact ⟨_, ⟨names, hnames, rfl⟩, hleads names hnames⟩
      | link target =>
          refine iff_of_false ?_ ?_
          · rintro ⟨_, hmem, _⟩
            cases hmem
          · rintro (⟨_, _, heq⟩ | ⟨_, _, heq, _⟩) <;> cases heq

/-! ## All arguments -/

/-- Without links, no file is listed twice if and only if no two arguments cover one. -/
theorem pairwise_collect_iff (h : w.files.Tree) (hlinks : w.files.Unlinked) (line : CommandLine) :
    ((w.collect line).Pairwise fun p q => ¬w.SameFile p q) ↔
      line.inputs.Pairwise fun input other => ∀ loc,
        ¬(w.Covers line.walkDepth input loc ∧ w.Covers line.walkDepth other loc) := by
  have hone : ∀ input ∈ line.inputs,
      ((w.filesOf? line.walkDepth input).getD []).Pairwise fun p q => ¬w.SameFile p q := by
    refine fun input _ => (pairwise_filesOf? h line.walkDepth input).imp fun hvia hsame => ?_
    rcases hvia hsame with ⟨loc, names, _, _, hlink⟩ | ⟨loc, names, _, _, hlink⟩ <;>
      exact hlinks.not_linkOn loc names hlink
  rw [collect, List.pairwise_flatMap, and_iff_right hone]
  refine iff_of_eq (congrArg (List.Pairwise · line.inputs) (funext₂ fun input other => ?_))
  simp only [← exists_mem_filesOf?_iff h hlinks, eq_iff_iff]
  constructor
  · rintro hapart loc ⟨⟨p, hp, hloc⟩, q, hq, hloc'⟩
    exact hapart p hp q hq ⟨loc, hloc, hloc'⟩
  · rintro hapart p hp q hq ⟨loc, hloc, hloc'⟩
    exact hapart loc ⟨⟨p, hp, hloc⟩, q, hq, hloc'⟩

end World

/-! ## Runs over different files -/

/-- How many runs a tally has counted. -/
def Tally.total (t : Tally) : Nat :=
  t.reformatted + t.unchanged + t.failed

theorem Tally.total_count (t : Tally) (result : Except Fault Applied) :
    (t.count result).total = t.total + 1 := by
  have hone := counts_ofResults [result]
  rw [count_eq_add, total, total]
  simp only [add, List.length_singleton] at hone ⊢
  omega

/-- Whether a run is still to be counted. -/
def Job.isOpen (job : Job) : Bool :=
  decide (0 < job.stage.remaining)

/-- A step of a run either leaves it open and the tally as it is, or closes it and counts it. -/
theorem Job.total_step (setup : Batch.Setup) (i : Nat) (job : Job) (s : Shared) :
    (job.step setup i s).2.tally.total + (if (job.step setup i s).1.isOpen then 1 else 0) =
      s.tally.total + (if job.isOpen then 1 else 0) := by
  have h := job.advances_step setup i s
  generalize job.step setup i s = next at h ⊢
  cases h with
  | proceed stage _ _ hopen hless _ =>
      rw [isOpen, isOpen, decide_eq_true hopen, decide_eq_true (Nat.zero_lt_of_lt hless)]
      rfl
  | conclude hmore =>
      rw [isOpen, isOpen, decide_eq_true (Nat.zero_lt_of_lt hmore)]
      rfl
  | record result hstage =>
      rw [isOpen, isOpen, hstage, Tally.total_count]
      rfl
  | rest hdone => rfl

namespace Batch

variable {setup : Setup} {w : World} {paths : List Path} {b : Batch}

/-- How many runs are still to be counted. -/
def stillOpen (b : Batch) : Nat :=
  b.jobs.countP Job.isOpen

/-- A step counts a run or leaves it open. -/
theorem total_advance (setup : Setup) (b : Batch) (i : Nat) :
    (b.advance setup i).shared.tally.total + (b.advance setup i).stillOpen =
      b.shared.tally.total + b.stillOpen := by
  cases hjob : b.jobs[i]? with
  | none =>
      unfold advance
      rw [hjob]
  | some job =>
      rcases List.getElem?_eq_some_iff.mp hjob with ⟨hlt, rfl⟩
      have hbefore := (List.getElem_cons_eraseIdx_perm hlt).countP_eq Job.isOpen
      have hafter := (List.set_perm_cons_eraseIdx hlt
        (b.jobs[i].step setup i b.shared).1).countP_eq Job.isOpen
      have hstep := b.jobs[i].total_step setup i b.shared
      rw [List.countP_cons] at hbefore hafter
      simp only [advance_of_get setup hjob, stillOpen, hafter, ← hbefore]
      omega

theorem total_follow (setup : Setup) (b : Batch) (schedule : List Nat) :
    (b.follow setup schedule).shared.tally.total + (b.follow setup schedule).stillOpen =
      b.shared.tally.total + b.stillOpen := by
  induction schedule generalizing b with
  | nil => rfl
  | cons i schedule ih => exact (ih (b.advance setup i)).trans (total_advance setup b i)

/-- Once every run is finished, the tally has counted each of them once. -/
theorem total_follow_of_covers {schedule : List Nat}
    (hcovers : Covers schedule paths.length) :
    (Batch.follow setup ⟨paths.map Job.ofPath, { world := w }⟩ schedule).shared.tally.total =
      paths.length := by
  have htotal := total_follow setup ⟨paths.map Job.ofPath, { world := w }⟩ schedule
  have hdone : (Batch.follow setup ⟨paths.map Job.ofPath, { world := w }⟩ schedule).stillOpen =
      0 := by
    refine List.countP_eq_zero.mpr fun job hjob => ?_
    rw [Job.isOpen, remaining_follow_of_covers (by rwa [List.length_map]) job hjob]
    exact Bool.false_ne_true
  have hall : stillOpen ⟨paths.map Job.ofPath, { world := w }⟩ = paths.length := by
    rw [stillOpen, List.countP_eq_length.mpr, List.length_map]
    intro job hjob
    rcases List.mem_map.mp hjob with ⟨path, _, rfl⟩
    rfl
  rw [hdone, hall] at htotal
  exact htotal.trans (Nat.zero_add _)

/-- A step of one run changes nothing at the file of another, if the files are different. -/
theorem sameAt_advance (h : b.Frame setup w (paths.map some))
    (hdiffer : paths.Pairwise fun p q => ¬w.SameFile p q) {i k : Nat} {other : Path}
    (hne : k ≠ i) (hk : paths[k]? = some other) :
    World.SameAt other b.shared.world (b.advance setup i).shared.world := by
  cases hjob : b.jobs[i]? with
  | none =>
      unfold advance
      rw [hjob]
      exact fun _ _ => rfl
  | some job =>
      rcases h.jobs i job hjob with ⟨target, htarget, hfor⟩
      rw [List.getElem?_map] at htarget
      rcases Option.map_eq_some_iff.mp htarget with ⟨path, hpath, rfl⟩
      rw [advance_of_get setup hjob]
      exact (Job.isFor_and_touches_step hfor h.sameTree).2.sameAt h.sameTree
        (not_sameFile_of_pairwise hdiffer hpath hk hne)

end Batch

/-! ## The whole list -/

/-- When a place is listed twice, and what it means that none is. In a tree without symbolic links
    no two entries lead to one place if and only if no two arguments cover one; a symbolic link is
    needed for one argument to bring a place into the list twice. If no two entries lead to one
    place, which is one file where there are no hard links, then no step of a run changes the file
    of another run, in whatever order the runs take their steps. The tally of a batch that is
    through has counted every entry once. -/
theorem World.collect_repetitions {w : World} (h : w.files.Tree) (line : CommandLine) :
    let depth := if line.recursive then 256 else 1
    (∀ input ∈ line.inputs, ((w.filesOf? depth input).getD []).Pairwise fun p q =>
        w.SameFile p q → w.ViaLink input p ∨ w.ViaLink input q) ∧
      (w.files.Unlinked →
        ((w.collect line).Pairwise (fun p q => ¬w.SameFile p q) ↔
          line.inputs.Pairwise fun input other => ∀ loc,
            ¬(w.Covers depth input loc ∧ w.Covers depth other loc))) ∧
      ∀ (setup : Batch.Setup) (order : Batch.Order), setup.line = line →
        let b := CommandLine.batchUnder order setup { world := w }
        ((w.collect line).Pairwise (fun p q => ¬w.SameFile p q) →
          ∀ (i k : Nat) (other : Path), k ≠ i → (w.collect line)[k]? = some other →
            World.SameAt other b.shared.world (b.advance setup i).shared.world) ∧
        (Batch.Covers (order (w.collect line).length) (w.collect line).length →
          b.shared.tally.total = (w.collect line).length) := by
  refine ⟨fun input _ => pairwise_filesOf? h _ input,
    fun hlinks => pairwise_collect_iff h hlinks line, ?_⟩
  rintro setup order rfl
  refine ⟨fun hdiffer i k other hne hk => ?_, fun hcovers => ?_⟩
  · exact Batch.sameAt_advance (Batch.frame_follow (Batch.frame_ofPath setup _ w _ rfl) _) hdiffer
      hne hk
  · rw [CommandLine.batchUnder, List.length_map]
    exact Batch.total_follow_of_covers hcovers

/-- The command line for a directory and for a file that is not in it. -/
def CommandLine.sources : CommandLine where
  inputs := [⟨"d"⟩, ⟨"x.txt"⟩]
  recursive := true

/-- The two of them cover no file in common, so what is listed is listed once. -/
theorem World.collect_repetitions_sources :
    (sourcesWorld.files.Tree ∧ sourcesWorld.files.Unlinked) ∧
      (sourcesWorld.collect .sources).Pairwise (fun p q => ¬sourcesWorld.SameFile p q) ∧
      (CommandLine.batchUnder Batch.oneByOne ⟨.sources, .unix, {}, Batch.held .unix⟩
        { world := sourcesWorld }).shared.tally.total = (sourcesWorld.collect .sources).length := by
  have htree : sourcesWorld.files.Tree := by decide
  have hlinks : sourcesWorld.files.Unlinked := by decide
  have hdir : sourcesWorld.files.resolve sourcesWorld.cwd ⟨"d"⟩ = .ok (["d"], .dir) :=
    FileSystem.resolve_name rfl (by decide) rfl nofun
  have hfile : sourcesWorld.files.resolve sourcesWorld.cwd ⟨"x.txt"⟩ =
      .ok (["x.txt"], .file [] false) := FileSystem.resolve_name rfl (by decide) rfl nofun
  rcases World.collect_repetitions htree .sources with ⟨_, hiff, hruns⟩
  refine ⟨⟨htree, hlinks⟩, (hiff hlinks).mpr ?_, ?_⟩
  · refine List.pairwise_pair.mpr ?_
    rintro loc ⟨hd, hx⟩
    -- What the directory covers is inside of it.
    rcases hd with ⟨_, _, heq⟩ | ⟨_, names, heq, rfl, _⟩
    · rw [hdir] at heq
      cases heq
    · rw [hdir] at heq
      cases heq
      rcases hx with ⟨_, _, heq⟩ | ⟨_, _, heq, _⟩
      · rw [hfile] at heq
        have hplace := congrArg Prod.fst (Except.ok.inj heq)
        exact absurd (List.cons.inj hplace).1 (by decide)
      · rw [hfile] at heq
        cases heq
  · exact (hruns ⟨.sources, .unix, {}, Batch.held .unix⟩ Batch.oneByOne rfl).2
      (Batch.covers_oneByOne _)

/-! ## Entries that lead to one file -/

/-- A world with a link beside its file. -/
def overlapWorld : World where
  files := ⟨[(["d"], .dir), (["d", "m.py"], .file [] false), (["d", "l.py"], .link ⟨"m.py"⟩)]⟩
  cwd := []
  env := .empty
  programs := fun _ => none

/-- A file is listed twice if it is named twice, or if a link beside it leads to it. -/
theorem World.collect_overlapping :
    overlapWorld.files.Tree ∧
      (¬(overlapWorld.collect { inputs := [⟨"d/m.py"⟩, ⟨"d/m.py"⟩] }).Pairwise fun p q =>
        ¬overlapWorld.SameFile p q) ∧
      ¬(overlapWorld.collect { inputs := [⟨"d"⟩] }).Pairwise fun p q =>
        ¬overlapWorld.SameFile p q := by
  have hdir : overlapWorld.files.reach overlapWorld.cwd ⟨"d"⟩ = .ok ["d"] :=
    (FileSystem.reach_name _ _ (by decide)).trans
      (FileSystem.walkTo_name _ rfl (by decide) rfl nofun)
  have hname : FileSystem.IsName "m.py" := by decide
  have hmodule : overlapWorld.files.reach overlapWorld.cwd ⟨"d/m.py"⟩ = .ok ["d", "m.py"] :=
    FileSystem.reach_join hdir rfl hname rfl fun _ h => Entry.noConfusion h
  have hlink : overlapWorld.files.reach overlapWorld.cwd ⟨"d/l.py"⟩ = .ok ["d", "m.py"] := by
    rw [FileSystem.reach_eq_reachBy]
    rfl
  have htwice : overlapWorld.collect { inputs := [⟨"d/m.py"⟩, ⟨"d/m.py"⟩] } =
      [⟨"d/m.py"⟩, ⟨"d/m.py"⟩] := by
    simp only [collect, List.flatMap_cons, List.flatMap_nil, filesOf?, FileSystem.resolve, hmodule]
    rfl
  have hlinked : overlapWorld.collect { inputs := [⟨"d"⟩] } = [⟨"d/m.py"⟩, ⟨"d/l.py"⟩] := by
    have hdepth : CommandLine.walkDepth { inputs := [⟨"d"⟩] } = 0 + 1 := rfl
    simp only [collect, hdepth, filesOf?, filesBelow, FileSystem.resolve,
      FileSystem.reach_eq_reachBy]
    rfl
  rw [htwice, hlinked]
  exact ⟨by decide,
    fun hdiffer => List.rel_of_pairwise_cons hdiffer List.mem_cons_self ⟨_, hmodule, hmodule⟩,
    fun hdiffer => List.rel_of_pairwise_cons hdiffer List.mem_cons_self ⟨_, hmodule, hlink⟩⟩

end BufferFormat
