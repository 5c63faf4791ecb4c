import BufferFormat.World

/-!
# Reading what was written

A file that was written holds what was written to it, and this has to be shown for paths, not for
locations. Between the write and the read the tree changes under the path: where there was nothing,
or a file with other contents, there is a file now. The walk along the path still ends in the same
place, because everything it follows on its way is a directory or a link, and neither was touched.

That argument has nothing to do with a single write. Where paths lead is decided by the directories
and the links alone, so any two file systems that agree on those lead every path to the same place,
whatever their files are. `SameWays` is that agreement. `SameTree` is the closer one of two file
systems in which even the same files are there, with contents that may differ.

## Main definitions

* `FileSystem.SameWays`: Two file systems with the same directories and links.
* `FileSystem.SameTree`: Two file systems that differ in nothing but the contents of files.
* `FileSystem.WrittenAt`: A file system in which a file was written, seen from the one before.
* `World.SameTree`: Two worlds that differ in nothing but the contents of files.
* `World.SameFile`: Two paths that lead to one place.
* `World.SameAt`: Two worlds with the same where a path leads.
* `World.holding`: A world with one file.

## Theorems

* `FileSystem.walkTo_of_sameWays`, `FileSystem.reach_of_sameWays`: Where a path leads does not
  depend on the files that there are.
* `FileSystem.isFile_iff`, `FileSystem.read_eq_ok_iff`: What is named and what is read is what
  stands where the path leads.
* `FileSystem.sameTree_of_write`: Writing a file that is there changes its contents and nothing
  else.
* `FileSystem.read_of_write`: A file holds what was written to it.
* `FileSystem.SameTree.resolve_cases`: A path leads to the same in both file systems, except for
  the contents of files.
* `World.SameTree.readFile_eq`, `World.SameTree.writeFile_cases`: A file with the same contents in
  two worlds is read alike and written alike.
* `World.readFile_congr`: What is read depends on the one place to which the path leads.
* `World.sameTree_of_writeFile`, `World.readFile_of_writeFile`: The same in the world of a
  run.
-/

namespace BufferFormat

/-- What leads on from a location: a directory or a link. -/
def Entry.way? : Entry → Option Entry
  | .file .. => none
  | e => some e

namespace FileSystem

/-- Replacing an entry changes what is found at its location and nothing else. -/
theorem lookup_setEntry (loc other : Location) (e : Entry) (entries : List (Location × Entry)) :
    (setEntry loc e entries).lookup other =
      if other = loc then some e else entries.lookup other := by
  induction entries with
  | nil =>
      by_cases h : other = loc
      · simp only [setEntry, List.lookup_cons, if_pos h, beq_iff_eq.mpr h]
      · simp only [setEntry, List.lookup_cons, if_neg h, beq_eq_false_iff_ne.mpr h]
  | cons entry entries ih =>
      rcases entry with ⟨l, old⟩
      by_cases hl : l = loc
      · -- The entry is replaced where it stands.
        rw [setEntry, if_pos hl, List.lookup_cons, List.lookup_cons, hl]
        by_cases h : other = loc
        · simp only [if_pos h, beq_iff_eq.mpr h]
        · simp only [if_neg h, beq_eq_false_iff_ne.mpr h]
      · simp only [setEntry, if_neg hl, List.lookup_cons, ih]
        by_cases ho : other = l
        · have h : other ≠ loc := fun h => hl (ho.symm.trans h)
          simp only [beq_iff_eq.mpr ho, if_neg h]
        · simp only [beq_eq_false_iff_ne.mpr ho]

/-- A file system in which the file at a location was written, where there was a file before or
    nothing. -/
structure WrittenAt (loc : Location) (data : List UInt8) (executable : Bool)
    (fs fs' : FileSystem) : Prop where
  /-- The file is there now. -/
  there : fs'.entry? loc = some (.file data executable)
  /-- Whatever was not a file at this location is where it was. -/
  elsewhere : ∀ other, other ≠ loc → fs'.entry? other = fs.entry? other
  /-- There was neither a directory nor a link. -/
  before : fs.entry? loc ≠ some .dir ∧ ∀ target, fs.entry? loc ≠ some (.link target)
  /-- A file that was there can be executed as before. -/
  mode : ∀ old oldExecutable, fs.entry? loc = some (.file old oldExecutable) →
    executable = oldExecutable

/-- Replacing an entry that is no directory and no link writes the file there. -/
theorem writtenAt_setEntry (fs : FileSystem) (loc : Location) (data : List UInt8)
    (executable : Bool) (hdir : fs.entry? loc ≠ some .dir)
    (hlink : ∀ target, fs.entry? loc ≠ some (.link target))
    (hmode : ∀ old oldExecutable, fs.entry? loc = some (.file old oldExecutable) →
      executable = oldExecutable) :
    WrittenAt loc data executable fs ⟨setEntry loc (.file data executable) fs.entries⟩ where
  there := by
    have hroot : loc ≠ [] := by
      intro h
      exact hdir (by rw [ entry?, if_pos h])
    rw [ entry?, if_neg hroot, lookup_setEntry, if_pos rfl]
  elsewhere := by
    intro other hother
    rw [ entry?, entry?, lookup_setEntry, if_neg hother]
  before := ⟨hdir, hlink⟩
  mode := hmode

/-! ## Walks -/

/-- Two file systems with the same directories and the same links. Their files may differ in every
    respect, as there is no way through a file. -/
def SameWays (fs fs' : FileSystem) : Prop :=
  ∀ loc, (fs.entry? loc).bind Entry.way? = (fs'.entry? loc).bind Entry.way?

theorem SameWays.symm {fs fs' : FileSystem} (h : SameWays fs fs') : SameWays fs' fs :=
  fun loc => (h loc).symm

/-- Directories and links are where they were. -/
theorem SameWays.entry?_eq {fs fs' : FileSystem} (hs : SameWays fs fs') {l : Location} {e : Entry}
    (h : fs.entry? l = some e) (hway : e.way? = some e) : fs'.entry? l = some e := by
  have hl := hs l
  rw [h, Option.bind_some, hway] at hl
  cases he : fs'.entry? l with
  | none =>
      rw [he] at hl
      cases hl
  | some e' =>
      rw [he, Option.bind_some] at hl
      cases e' with
      | file data executable => cases hl
      | dir => exact hl.symm
      | link target => exact hl.symm

/-- One more file leaves directories and links alone. -/
theorem sameWays_append_file (entries : List (Location × Entry)) (loc : Location)
    (data : List UInt8) (executable : Bool) :
    SameWays ⟨entries⟩ ⟨entries ++ [(loc, .file data executable)]⟩ := by
  intro l
  by_cases hroot : l = []
  · rw [ entry?, entry?, if_pos hroot, if_pos hroot]
  · rw [ entry?, entry?, if_neg hroot, if_neg hroot, List.lookup_append]
    cases entries.lookup l with
    | some e => rfl
    | none =>
        rw [Option.none_or, List.lookup_cons]
        cases l == loc <;> rfl

/-- Writing a file where there was none, or another file, leaves directories and links alone. -/
theorem WrittenAt.sameWays {loc : Location} {data : List UInt8} {executable : Bool}
    {fs fs' : FileSystem} (hw : WrittenAt loc data executable fs fs') : SameWays fs fs' := by
  intro l
  by_cases hl : l = loc
  · rw [hl, hw.there]
    cases he : fs.entry? loc with
    | none => rfl
    | some e =>
        cases e with
        | file old executable => rfl
        | dir => exact absurd he hw.before.1
        | link target => exact absurd he (hw.before.2 target)
  · rw [hw.elsewhere l hl]

/-- A name that is no link is entered. -/
theorem walkTo_enter (fs : FileSystem) (links : Nat) (l : Location) (piece : String)
    (rest : List String) {e : Entry} (hdir : fs.entry? l = some .dir)
    (hstay : ¬(piece.isEmpty || piece == ".") = true) (hup : ¬(piece == "..") = true)
    (hlong : ¬longestName < piece.utf8ByteSize) (hlink : ∀ target, e ≠ .link target)
    (he : fs.entry? (l ++ [piece]) = some e) :
    fs.walkTo links l (piece :: rest) = fs.walkTo links (l ++ [piece]) rest := by
  rw [walkTo, hdir]
  simp only [if_neg hstay, if_neg hup, if_neg hlong, he]

/-- A last name that is a file, or does not exist, is where a walk ends. -/
theorem walkTo_last (fs : FileSystem) (links : Nat) (l : Location) (piece : String)
    (hdir : fs.entry? l = some .dir) (hstay : ¬(piece.isEmpty || piece == ".") = true)
    (hup : ¬(piece == "..") = true) (hlong : ¬longestName < piece.utf8ByteSize)
    (hend : (fs.entry? (l ++ [piece])).bind Entry.way? = none) :
    fs.walkTo links l [piece] = .ok (l ++ [piece]) := by
  rw [walkTo, hdir]
  simp only [if_neg hstay, if_neg hup, if_neg hlong]
  cases he : fs.entry? (l ++ [piece]) with
  | none => rfl
  | some e =>
      rw [he] at hend
      cases e with
      | file data executable => simp only [walkTo]
      | dir => cases hend
      | link target => cases hend

/-- There is no way through a file. -/
theorem walkTo_of_file (fs : FileSystem) (links : Nat) {l loc : Location} {rest : List String}
    {data : List UInt8} {executable : Bool} (he : fs.entry? l = some (.file data executable))
    (h : fs.walkTo links l rest = .ok loc) : rest = [] ∧ l = loc := by
  cases rest with
  | nil =>
      rw [walkTo] at h
      exact ⟨rfl, Except.ok.inj h⟩
  | cons piece rest =>
      rw [walkTo, he] at h
      cases h

/-- Where a walk ends does not depend on the files that there are. -/
theorem walkTo_of_sameWays {fs fs' : FileSystem} (hs : SameWays fs fs') (links : Nat)
    (l loc : Location) (rest : List String) (h : fs.walkTo links l rest = .ok loc) :
    fs'.walkTo links l rest = .ok loc := by
  -- The induction follows the walk. A walk that ends somewhere meets no error on its way.
  fun_induction fs.walkTo links l rest with
  | case1 links l =>
      rw [walkTo]
      exact h
  | case2 links l piece rest hdir hstay ih =>
      rw [walkTo, hs.entry?_eq hdir rfl]
      simp only [if_pos hstay]
      exact ih h
  | case3 links l piece rest hdir hstay hup ih =>
      rw [walkTo, hs.entry?_eq hdir rfl]
      simp only [if_neg hstay, if_pos hup]
      exact ih h
  | case4 => cases h
  | case5 => cases h
  | case6 => cases h
  | case7 l piece rest hdir hstay hup hlong target hlink links htarget ih =>
      rw [walkTo, hs.entry?_eq hdir rfl]
      simp only [if_neg hstay, if_neg hup, if_neg hlong, hs.entry?_eq hlink rfl, if_neg htarget]
      exact ih h
  | case8 links l piece rest hdir hstay hup hlong e hlink he ih =>
      cases e with
      | dir =>
          rw [walkTo_enter fs' links l piece rest (hs.entry?_eq hdir rfl) hstay hup hlong hlink
            (hs.entry?_eq he rfl)]
          exact ih h
      | link target => exact absurd rfl (hlink target)
      | file data executable =>
          -- A file can only be the end.
          rcases walkTo_of_file fs links he h with ⟨rfl, rfl⟩
          have hend := (hs (l ++ [piece])).symm
          rw [he] at hend
          exact walkTo_last fs' links l piece (hs.entry?_eq hdir rfl) hstay hup hlong hend
  | case9 links l piece rest hdir hstay hup hlong hnone hrest =>
      -- Neither can what does not exist be more than the end.
      rw [List.isEmpty_iff.mp hrest, ← Except.ok.inj h]
      have hend := (hs (l ++ [piece])).symm
      rw [hnone] at hend
      exact walkTo_last fs' links l piece (hs.entry?_eq hdir rfl) hstay hup hlong hend
  | case10 => cases h
  | case11 => cases h
  | case12 => cases h

/-- Where a path leads does not depend on the files that there are. -/
theorem reach_of_sameWays {fs fs' : FileSystem} (hs : SameWays fs fs') {cwd loc : Location}
    {p : Path} (h : fs.reach cwd p = .ok loc) : fs'.reach cwd p = .ok loc := by
  unfold reach at h ⊢
  by_cases hp : p.text.isEmpty = true
  · rw [if_pos hp] at h
    cases h
  · rw [if_neg hp] at h ⊢
    exact walkTo_of_sameWays hs _ _ _ _ h

/-! ## Files -/

/-- A path leads to what is there. -/
theorem resolve_eq_ok_iff (fs : FileSystem) (cwd : Location) (p : Path) (loc : Location)
    (e : Entry) :
    fs.resolve cwd p = .ok (loc, e) ↔ fs.reach cwd p = .ok loc ∧ fs.entry? loc = some e := by
  cases hreach : fs.reach cwd p with
  | error fault =>
      simp only [resolve, hreach, bind, Except.bind, reduceCtorEq, false_and]
  | ok found =>
      cases hentry : fs.entry? found with
      | none =>
          simp only [resolve, hreach, bind, Except.bind, hentry, reduceCtorEq, Except.ok.injEq,
            false_iff, not_and]
          rintro rfl
          rw [hentry]
          nofun
      | some other =>
          simp only [resolve, hreach, bind, Except.bind, hentry, Except.ok.injEq, Prod.mk.injEq]
          constructor
          · rintro ⟨rfl, rfl⟩
            exact ⟨rfl, hentry⟩
          · rintro ⟨rfl, he⟩
            rw [hentry] at he
            exact ⟨rfl, Option.some.inj he⟩

/-- A path names a file exactly if it leads to one. -/
theorem isFile_iff (fs : FileSystem) (cwd : Location) (p : Path) :
    fs.isFile cwd p = true ↔
      ∃ loc data executable, fs.reach cwd p = .ok loc ∧
        fs.entry? loc = some (.file data executable) := by
  constructor
  · intro h
    unfold isFile at h
    split at h
    · rename_i loc data executable hresolve
      exact ⟨loc, data, executable, (resolve_eq_ok_iff _ _ _ _ _).mp hresolve⟩
    · cases h
  · rintro ⟨loc, data, executable, h⟩
    rw [isFile, (resolve_eq_ok_iff _ _ _ _ _).mpr h]

/-- What is read is the contents of the file to which a path leads. -/
theorem read_eq_ok_iff (fs : FileSystem) (cwd : Location) (p : Path) (data : List UInt8) :
    fs.read cwd p = .ok data ↔
      ∃ loc executable, fs.reach cwd p = .ok loc ∧
        fs.entry? loc = some (.file data executable) := by
  constructor
  · intro h
    cases hresolve : fs.resolve cwd p with
    | error fault =>
        simp only [read, hresolve, bind, Except.bind] at h
        cases h
    | ok found =>
        rcases found with ⟨loc, e⟩
        cases e with
        | file other executable =>
            simp only [read, hresolve, bind, Except.bind] at h
            rw [← Except.ok.inj h]
            exact ⟨loc, executable, (resolve_eq_ok_iff _ _ _ _ _).mp hresolve⟩
        | dir =>
            simp only [read, hresolve, bind, Except.bind] at h
            cases h
        | link target =>
            simp only [read, hresolve, bind, Except.bind] at h
            cases h
  · rintro ⟨loc, executable, h⟩
    have hresolve := (resolve_eq_ok_iff _ _ _ _ _).mpr h
    simp only [read, hresolve, bind, Except.bind]

/-! ## Writes -/

/-- A write goes where the path leads, and writes a file there. -/
theorem writtenAt_of_write {fs fs' : FileSystem} {cwd : Location} {p : Path} {data : List UInt8}
    (h : fs.write cwd p data = .ok fs') :
    ∃ loc executable, fs.reach cwd p = .ok loc ∧ WrittenAt loc data executable fs fs' := by
  unfold write at h
  cases hreach : fs.reach cwd p with
  | error e =>
      rw [hreach] at h
      cases h
  | ok loc =>
      rw [hreach] at h
      -- What stands there may be a file or nothing. A directory or a link is not written.
      cases hentry : fs.entry? loc with
      | none =>
          simp only [bind, Except.bind, hentry] at h
          cases h
          refine ⟨loc, false, rfl, writtenAt_setEntry fs loc data false ?_ ?_ ?_⟩
          all_goals
            rw [hentry]
            nofun
      | some e =>
          cases e with
          | file old executable =>
              simp only [bind, Except.bind, hentry] at h
              cases h
              refine ⟨loc, executable, rfl, writtenAt_setEntry fs loc data executable ?_ ?_ ?_⟩
              · rw [hentry]
                nofun
              · rw [hentry]
                nofun
              · rw [hentry]
                rintro _ _ ⟨⟩
                rfl
          | dir =>
              simp only [bind, Except.bind, hentry] at h
              cases h
          | link target =>
              simp only [bind, Except.bind, hentry] at h
              cases h

/-- Two file systems that differ in nothing but the contents of files. -/
def SameTree (fs fs' : FileSystem) : Prop :=
  ∀ loc, fs'.entry? loc = fs.entry? loc ∨
    ∃ data data' executable, fs.entry? loc = some (.file data executable) ∧
      fs'.entry? loc = some (.file data' executable)

theorem SameTree.refl (fs : FileSystem) : SameTree fs fs :=
  fun _ => Or.inl rfl

/-- Where one tree has a file, so has the other. -/
theorem SameTree.entry?_file {fs fs' : FileSystem} (hs : SameTree fs fs') {loc : Location}
    {data : List UInt8} {executable : Bool} (h : fs.entry? loc = some (.file data executable)) :
    ∃ data', fs'.entry? loc = some (.file data' executable) := by
  rcases hs loc with heq | ⟨old, data', other, hold, hnew⟩
  · exact ⟨data, heq.trans h⟩
  · rw [hold] at h
    cases h
    exact ⟨data', hnew⟩

theorem SameTree.symm {fs fs' : FileSystem} (hs : SameTree fs fs') : SameTree fs' fs := by
  intro loc
  rcases hs loc with heq | ⟨data, data', executable, hold, hnew⟩
  · exact Or.inl heq.symm
  · exact Or.inr ⟨data', data, executable, hnew, hold⟩

theorem SameTree.sameWays {fs fs' : FileSystem} (hs : SameTree fs fs') : SameWays fs fs' := by
  intro loc
  rcases hs loc with heq | ⟨data, data', executable, hold, hnew⟩
  · rw [heq]
  · rw [hold, hnew]
    rfl

theorem SameTree.trans {fs fs' fs'' : FileSystem} (h : SameTree fs fs') (h' : SameTree fs' fs'') :
    SameTree fs fs'' := by
  intro loc
  rcases h' loc with heq | ⟨data, data', executable, hold, hnew⟩
  · rw [heq]
    exact h loc
  · -- The file was a file before, too.
    rcases h loc with heq | ⟨first, second, other, hfirst, hsecond⟩
    · exact Or.inr ⟨data, data', executable, heq.symm.trans hold, hnew⟩
    · rw [hsecond] at hold
      cases hold
      exact Or.inr ⟨first, data', executable, hfirst, hnew⟩

/-- Writing a file that is there changes its contents and nothing else. -/
theorem sameTree_of_write {fs fs' : FileSystem} {cwd loc : Location} {p : Path}
    {old data : List UInt8} {executable : Bool} (hreach : fs.reach cwd p = .ok loc)
    (hold : fs.entry? loc = some (.file old executable)) (h : fs.write cwd p data = .ok fs') :
    SameTree fs fs' ∧ ∀ other, other ≠ loc → fs'.entry? other = fs.entry? other := by
  rcases writtenAt_of_write h with ⟨found, mode, hfound, hw⟩
  rw [hreach] at hfound
  cases hfound
  refine ⟨fun other => ?_, hw.elsewhere⟩
  by_cases hother : other = loc
  · -- Only the contents are new.
    refine Or.inr ⟨old, data, executable, hother ▸ hold, ?_⟩
    rw [hother, ← hw.mode old executable hold]
    exact hw.there
  · exact Or.inl (hw.elsewhere other hother)

/-- Where one tree has nothing, neither has the other. -/
theorem SameTree.entry?_none {fs fs' : FileSystem} (hs : SameTree fs fs') {loc : Location}
    (h : fs.entry? loc = none) : fs'.entry? loc = none := by
  rcases hs loc with heq | ⟨old, data', other, hold, hnew⟩
  · exact heq.trans h
  · rw [hold] at h
    cases h

/-- Where one tree has something, so has the other, and it leads on in the same way. -/
theorem SameTree.entry?_some {fs fs' : FileSystem} (hs : SameTree fs fs') {loc : Location}
    {e : Entry} (h : fs.entry? loc = some e) :
    ∃ e', fs'.entry? loc = some e' ∧
      (∀ other, e' = other → other.way? = some other → e = other) := by
  rcases hs loc with heq | ⟨old, data', executable, hold, hnew⟩
  · exact ⟨e, heq.trans h, fun _ hother _ => hother⟩
  · refine ⟨_, hnew, fun other hother hway => ?_⟩
    subst hother
    cases hway

/-- In two such trees a walk ends in the same place, or it fails in the same way. -/
theorem SameTree.walkTo_eq {fs fs' : FileSystem} (hs : SameTree fs fs') (links : Nat)
    (l : Location) (rest : List String) :
    fs'.walkTo links l rest = fs.walkTo links l rest := by
  fun_induction fs.walkTo links l rest with
  | case1 links l => rw [walkTo]
  | case2 links l piece rest hdir hstay ih =>
      rw [walkTo, hs.sameWays.entry?_eq hdir rfl]
      simp only [if_pos hstay]
      exact ih
  | case3 links l piece rest hdir hstay hup ih =>
      rw [walkTo, hs.sameWays.entry?_eq hdir rfl]
      simp only [if_neg hstay, if_pos hup]
      exact ih
  | case4 links l piece rest hdir hstay hup hlong =>
      rw [walkTo, hs.sameWays.entry?_eq hdir rfl]
      simp only [if_neg hstay, if_neg hup, if_pos hlong]
  | case5 l piece rest hdir hstay hup hlong target hlink =>
      rw [walkTo, hs.sameWays.entry?_eq hdir rfl]
      simp only [if_neg hstay, if_neg hup, if_neg hlong, hs.sameWays.entry?_eq hlink rfl]
  | case6 l piece rest hdir hstay hup hlong target hlink links htarget =>
      rw [walkTo, hs.sameWays.entry?_eq hdir rfl]
      simp only [if_neg hstay, if_neg hup, if_neg hlong, hs.sameWays.entry?_eq hlink rfl,
        if_pos htarget]
  | case7 l piece rest hdir hstay hup hlong target hlink links htarget ih =>
      rw [walkTo, hs.sameWays.entry?_eq hdir rfl]
      simp only [if_neg hstay, if_neg hup, if_neg hlong, hs.sameWays.entry?_eq hlink rfl,
        if_neg htarget]
      exact ih
  | case8 links l piece rest hdir hstay hup hlong e hlink he ih =>
      rcases hs.entry?_some he with ⟨e', he', hway⟩
      have hlink' : ∀ target, e' ≠ .link target := fun target htarget =>
        hlink target (hway _ htarget rfl)
      rw [walkTo_enter fs' links l piece rest (hs.sameWays.entry?_eq hdir rfl) hstay hup hlong
        hlink' he']
      exact ih
  | case9 links l piece rest hdir hstay hup hlong hnone hrest =>
      rw [walkTo, hs.sameWays.entry?_eq hdir rfl]
      simp only [if_neg hstay, if_neg hup, if_neg hlong, hs.entry?_none hnone, if_pos hrest]
  | case10 links l piece rest hdir hstay hup hlong hnone hrest =>
      rw [walkTo, hs.sameWays.entry?_eq hdir rfl]
      simp only [if_neg hstay, if_neg hup, if_neg hlong, hs.entry?_none hnone, if_neg hrest]
  | case11 links l piece rest e hdir he =>
      rcases hs.entry?_some he with ⟨e', he', hway⟩
      have hdir' : e' ≠ .dir := fun h => hdir (hway _ h rfl)
      rw [walkTo, he']
      cases e' with
      | dir => exact absurd rfl hdir'
      | file data executable => rfl
      | link target => rfl
  | case12 links l piece rest hnone =>
      rw [walkTo, hs.entry?_none hnone]
/-- A path leads to the same place in both, or it fails in the same way. -/
theorem SameTree.reach_eq {fs fs' : FileSystem} (hs : SameTree fs fs') (cwd : Location)
    (p : Path) : fs'.reach cwd p = fs.reach cwd p := by
  unfold reach
  split
  · rfl
  · exact hs.walkTo_eq _ _ _

/-- A path leads to the same entry in both, but for the contents of a file. -/
theorem SameTree.resolve_cases {fs fs' : FileSystem} (hs : SameTree fs fs') (cwd : Location)
    (p : Path) :
    fs'.resolve cwd p = fs.resolve cwd p ∨
      ∃ loc data data' executable, fs.resolve cwd p = .ok (loc, .file data executable) ∧
        fs'.resolve cwd p = .ok (loc, .file data' executable) := by
  unfold resolve
  rw [hs.reach_eq]
  cases fs.reach cwd p with
  | error e => exact Or.inl rfl
  | ok loc =>
      simp only [bind, Except.bind]
      rcases hs loc with heq | ⟨data, data', executable, hold, hnew⟩
      · exact Or.inl (by rw [heq])
      · exact Or.inr ⟨loc, data, data', executable, by rw [hold], by rw [hnew]⟩

theorem SameTree.isFile_eq {fs fs' : FileSystem} (hs : SameTree fs fs') (cwd : Location)
    (p : Path) : fs'.isFile cwd p = fs.isFile cwd p := by
  unfold isFile
  rcases hs.resolve_cases cwd p with heq | ⟨loc, data, data', executable, hold, hnew⟩
  · rw [heq]
  · rw [hold, hnew]

theorem SameTree.isDir_eq {fs fs' : FileSystem} (hs : SameTree fs fs') (cwd : Location)
    (p : Path) : fs'.isDir cwd p = fs.isDir cwd p := by
  unfold isDir
  rcases hs.resolve_cases cwd p with heq | ⟨loc, data, data', executable, hold, hnew⟩
  · rw [heq]
  · rw [hold, hnew]

/-- Where the contents are the same as well, a path leads to the same entry in both. -/
theorem SameTree.resolve_eq {fs fs' : FileSystem} (hs : SameTree fs fs') {cwd : Location}
    {p : Path} (hsame : ∀ loc, fs.reach cwd p = .ok loc → fs'.entry? loc = fs.entry? loc) :
    fs'.resolve cwd p = fs.resolve cwd p := by
  unfold resolve
  rw [hs.reach_eq]
  cases hreach : fs.reach cwd p with
  | error e => rfl
  | ok loc =>
      simp only [bind, Except.bind]
      rw [hsame loc hreach]

/-- A file holds what was written to it, read by the path by which it was written. -/
theorem read_of_write {fs fs' : FileSystem} {cwd : Location} {p : Path} {data : List UInt8}
    (h : fs.write cwd p data = .ok fs') : fs'.read cwd p = .ok data := by
  rcases writtenAt_of_write h with ⟨loc, executable, hreach, hw⟩
  have hreach' := reach_of_sameWays hw.sameWays hreach
  exact (read_eq_ok_iff _ _ _ _).mpr ⟨loc, executable, hreach', hw.there⟩

end FileSystem

/-- A file is read in the world exactly as in its file system, if the path holds no NUL. -/
theorem World.readFile_eq_ok_iff (w : World) (p : Path) (data : List UInt8) :
    w.readFile p = .ok data ↔
      World.hasNul p.text = false ∧ w.files.read w.cwd p = .ok data := by
  unfold World.readFile
  cases World.hasNul p.text with
  | true => simp only [if_true, reduceCtorEq, false_and]
  | false =>
      cases w.files.read w.cwd p with
      | error e => simp only [Bool.false_eq_true, if_false, reduceCtorEq, and_false]
      | ok other => simp only [Bool.false_eq_true, if_false, Except.ok.injEq, true_and]

/-- What is read as a text is the contents of a file that are UTF-8. -/
theorem World.readText_eq_ok_iff (w : World) (p : Path) (text : String) :
    w.readText p = .ok text ↔
      ∃ data cs, w.readFile p = .ok data ∧ Utf8.decode? data = some cs ∧
        text = String.ofList cs := by
  unfold World.readText
  cases w.readFile p with
  | error fault => simp only [bind, Except.bind, reduceCtorEq, false_and, exists_false]
  | ok data =>
      cases hdecode : Utf8.decode? data with
      | none =>
          simp only [bind, Except.bind, hdecode, reduceCtorEq, Except.ok.injEq, false_iff]
          rintro ⟨_, cs, rfl, hcs, _⟩
          rw [hdecode] at hcs
          cases hcs
      | some cs =>
          simp only [bind, Except.bind, hdecode, Except.ok.injEq]
          constructor
          · rintro rfl
            exact ⟨data, cs, rfl, hdecode, rfl⟩
          · rintro ⟨_, cs', rfl, hcs, rfl⟩
            rw [hdecode] at hcs
            rw [Option.some.inj hcs]

/-- What a path names, and what is read there, depends on the directories, the links and the one
    place to which the path leads. -/
theorem World.readFile_congr {w w' : World} {p : Path} (hcwd : w'.cwd = w.cwd)
    (hs : w.files.SameWays w'.files)
    (hsame : ∀ loc, w.files.reach w.cwd p = .ok loc →
      w'.files.entry? loc = w.files.entry? loc) :
    w'.isFile p = w.isFile p ∧ ∀ data, w'.readFile p = .ok data ↔ w.readFile p = .ok data := by
  -- Both worlds find the same files at the end of the path.
  have hfound : ∀ loc data executable,
      w'.files.reach w'.cwd p = .ok loc ∧ w'.files.entry? loc = some (.file data executable) ↔
        w.files.reach w.cwd p = .ok loc ∧
          w.files.entry? loc = some (.file data executable) := by
    intro loc data executable
    rw [hcwd]
    constructor
    · rintro ⟨hreach, hentry⟩
      have hback := FileSystem.reach_of_sameWays hs.symm hreach
      exact ⟨hback, (hsame loc hback).symm.trans hentry⟩
    · rintro ⟨hreach, hentry⟩
      exact ⟨FileSystem.reach_of_sameWays hs hreach, (hsame loc hreach).trans hentry⟩
  constructor
  · rw [Bool.eq_iff_iff, World.isFile, World.isFile, FileSystem.isFile_iff, FileSystem.isFile_iff]
    simp only [hfound]
  · intro data
    rw [readFile_eq_ok_iff, readFile_eq_ok_iff, FileSystem.read_eq_ok_iff,
      FileSystem.read_eq_ok_iff]
    simp only [hfound]

/-- A file is written in the world exactly as in its file system, if the path holds no NUL. -/
theorem World.writeFile_eq_ok {w w' : World} {p : Path} {data : List UInt8}
    (h : w.writeFile p data = .ok w') :
    World.hasNul p.text = false ∧
      ∃ files, w.files.write w.cwd p data = .ok files ∧ w' = { w with files } := by
  unfold World.writeFile at h
  cases hnul : World.hasNul p.text with
  | true =>
      rw [hnul, if_pos rfl] at h
      cases h
  | false =>
      rw [hnul, if_neg Bool.false_ne_true] at h
      cases hwrite : w.files.write w.cwd p data with
      | error e =>
          rw [hwrite] at h
          cases h
      | ok files =>
          rw [hwrite] at h
          cases h
          exact ⟨rfl, files, rfl, rfl⟩

/-- A world that differs from another in nothing but the contents of files. -/
def World.SameTree (w w' : World) : Prop :=
  ∃ files, w.files.SameTree files ∧ w' = { w with files }

theorem World.SameTree.refl (w : World) : w.SameTree w :=
  ⟨w.files, .refl w.files, rfl⟩

theorem World.SameTree.symm {w w' : World} (h : w.SameTree w') : w'.SameTree w := by
  rcases h with ⟨files, hfiles, rfl⟩
  exact ⟨w.files, hfiles.symm, rfl⟩

theorem World.SameTree.trans {w w' w'' : World} (h : w.SameTree w') (h' : w'.SameTree w'') :
    w.SameTree w'' := by
  rcases h with ⟨files, hfiles, rfl⟩
  rcases h' with ⟨files', hfiles', rfl⟩
  exact ⟨files', hfiles.trans hfiles', rfl⟩

/-- A path leads to a file in both worlds or in none, and to the same place. -/
theorem World.SameTree.reach_file {w w' : World} (h : w.SameTree w') {p : Path} {loc : Location}
    {data : List UInt8} {executable : Bool} (hreach : w.files.reach w.cwd p = .ok loc)
    (hfile : w.files.entry? loc = some (.file data executable)) :
    w'.files.reach w'.cwd p = .ok loc ∧
      ∃ data', w'.files.entry? loc = some (.file data' executable) := by
  rcases h with ⟨files, hfiles, rfl⟩
  exact ⟨FileSystem.reach_of_sameWays hfiles.sameWays hreach, hfiles.entry?_file hfile⟩

/-- A path leads to the same place in both worlds, or it fails in the same way. -/
theorem World.SameTree.reach_eq {w w' : World} (h : w.SameTree w') (p : Path) :
    w'.files.reach w'.cwd p = w.files.reach w.cwd p := by
  rcases h with ⟨files, hfiles, rfl⟩
  exact hfiles.reach_eq w.cwd p

theorem World.SameTree.isFile_eq {w w' : World} (h : w.SameTree w') : w'.isFile = w.isFile := by
  rcases h with ⟨files, hfiles, rfl⟩
  exact funext fun p => hfiles.isFile_eq w.cwd p

theorem World.SameTree.isDir_eq {w w' : World} (h : w.SameTree w') : w'.isDir = w.isDir := by
  rcases h with ⟨files, hfiles, rfl⟩
  exact funext fun p => hfiles.isDir_eq w.cwd p

/-- Two paths that lead to one place. As there are no hard links, they name one file then, and only
    then. -/
def World.SameFile (w : World) (p q : Path) : Prop :=
  ∃ loc, w.files.reach w.cwd p = .ok loc ∧ w.files.reach w.cwd q = .ok loc

theorem World.SameFile.symm {w : World} {p q : Path} (h : w.SameFile p q) : w.SameFile q p := by
  rcases h with ⟨loc, hp, hq⟩
  exact ⟨loc, hq, hp⟩

/-- What stands where a path leads is the same in two worlds. -/
def World.SameAt (p : Path) (w w' : World) : Prop :=
  ∀ loc, w.files.reach w.cwd p = .ok loc → w'.files.entry? loc = w.files.entry? loc

/-- A file with the same contents in both worlds is read alike. -/
theorem World.SameTree.readFile_eq {w w' : World} (h : w.SameTree w') {p : Path}
    (hsame : World.SameAt p w w') : w'.readFile p = w.readFile p := by
  rcases h with ⟨files, hfiles, rfl⟩
  simp only [readFile, FileSystem.read, hfiles.resolve_eq hsame]

/-- A file with the same contents in both worlds is written alike: it holds the same afterwards, or
    it cannot be written in either. -/
theorem World.SameTree.writeFile_cases {w w' : World} (h : w.SameTree w') {p : Path}
    (hsame : World.SameAt p w w') (data : List UInt8) :
    (∃ fault, w.writeFile p data = .error fault ∧ w'.writeFile p data = .error fault) ∨
      ∃ v v', w.writeFile p data = .ok v ∧ w'.writeFile p data = .ok v' ∧
        ∀ loc, w.files.reach w.cwd p = .ok loc → v'.files.entry? loc = v.files.entry? loc := by
  rcases h with ⟨files, hfiles, rfl⟩
  have hreach := hfiles.reach_eq w.cwd p
  unfold writeFile FileSystem.write
  cases hasNul p.text with
  | true => exact Or.inl ⟨_, rfl, rfl⟩
  | false =>
      simp only [Bool.false_eq_true, if_false, hreach]
      cases hloc : w.files.reach w.cwd p with
      | error e => exact Or.inl ⟨_, rfl, rfl⟩
      | ok loc =>
          simp only [bind, Except.bind]
          rw [hsame loc hloc]
          have hset : ∀ e : Entry, ∀ found, Except.ok loc = (.ok found : Except OsError Location) →
              FileSystem.entry? ⟨FileSystem.setEntry loc e files.entries⟩ found =
                FileSystem.entry? ⟨FileSystem.setEntry loc e w.files.entries⟩ found := by
            rintro e _ ⟨⟩
            simp only [FileSystem.entry?, FileSystem.lookup_setEntry, if_true]
          cases w.files.entry? loc with
          | none => exact Or.inr ⟨_, _, rfl, rfl, hset _⟩
          | some e =>
              cases e with
              | file old executable => exact Or.inr ⟨_, _, rfl, rfl, hset _⟩
              | dir => exact Or.inl ⟨_, rfl, rfl⟩
              | link target => exact Or.inl ⟨_, rfl, rfl⟩

/-- Writing a file that is there changes its contents and nothing else. -/
theorem World.sameTree_of_writeFile {w w' : World} {loc : Location} {p : Path}
    {old data : List UInt8} {executable : Bool} (hreach : w.files.reach w.cwd p = .ok loc)
    (hold : w.files.entry? loc = some (.file old executable))
    (h : w.writeFile p data = .ok w') :
    w.SameTree w' ∧ ∀ other, other ≠ loc → w'.files.entry? other = w.files.entry? other := by
  rcases writeFile_eq_ok h with ⟨_, files, hwrite, rfl⟩
  rcases FileSystem.sameTree_of_write hreach hold hwrite with ⟨htree, helse⟩
  exact ⟨⟨files, htree, rfl⟩, helse⟩

/-- A file holds what was written to it. -/
theorem World.readFile_of_writeFile {w w' : World} {p : Path} {data : List UInt8}
    (h : w.writeFile p data = .ok w') : w'.readFile p = .ok data := by
  rcases writeFile_eq_ok h with ⟨hnul, files, hwrite, rfl⟩
  exact (readFile_eq_ok_iff _ _ _).mpr ⟨hnul, FileSystem.read_of_write hwrite⟩

/-- A write that was not refused is a write. -/
theorem World.writeFile_of_writeFileUnless {w w' : World} {refusal : Option Fault} {p : Path}
    {data : List UInt8} (h : w.writeFileUnless refusal p data = .ok w') :
    w.writeFile p data = .ok w' := by
  cases refusal with
  | none => exact h
  | some fault => cases h

theorem World.readFile_of_writeFileUnless {w w' : World} {refusal : Option Fault} {p : Path}
    {data : List UInt8} (h : w.writeFileUnless refusal p data = .ok w') :
    w'.readFile p = .ok data :=
  readFile_of_writeFile (writeFile_of_writeFileUnless h)

/-! ## What is at the root -/

namespace FileSystem

/-- A name below the root that is no directory and no link is where its path leads. -/
theorem reach_root (fs : FileSystem) (cwd : Location) {p : Path} {name : String}
    (hp : pieces p = ["", name]) (habs : p.isAbsolute = true)
    (hstay : ¬(name.isEmpty || name == ".") = true) (hup : ¬(name == "..") = true)
    (hlong : ¬longestName < name.utf8ByteSize)
    (hend : (fs.entry? [name]).bind Entry.way? = none) : fs.reach cwd p = .ok [name] := by
  have htext : ¬p.text.isEmpty = true := by
    intro hempty
    rw [Path.isAbsolute, String.isEmpty_iff.mp hempty] at habs
    cases habs
  rw [reach, if_neg htext, if_pos habs, hp, walkTo, show fs.entry? [] = some .dir from rfl]
  exact walkTo_last fs mostLinks [] name rfl hstay hup hlong hend

/-- The root is a directory. -/
theorem resolve_root (fs : FileSystem) (cwd : Location) :
    fs.resolve cwd ⟨"/"⟩ = .ok ([], .dir) := by
  have hreach : fs.reach cwd ⟨"/"⟩ = .ok [] := by
    rw [reach, if_neg (by decide), if_pos (by decide), show pieces ⟨"/"⟩ = ["", ""] from rfl,
      walkTo, show fs.entry? [] = some .dir from rfl]
    change fs.walkTo mostLinks [] [""] = _
    rw [walkTo, show fs.entry? [] = some .dir from rfl]
    change fs.walkTo mostLinks [] [] = _
    rw [walkTo]
  rw [resolve, hreach]
  rfl

end FileSystem

/-! ## A world with one file -/

/-- A world that holds one file and nothing else. -/
def World.holding (loc : Location) (data : List UInt8) : World :=
  ⟨⟨[(loc, .file data false)]⟩, [], .empty, fun _ => none⟩

/-- Its name leads to the one file. -/
theorem World.reach_holding (data : List UInt8) :
    (World.holding ["a.py"] data).files.reach [] ⟨"/a.py"⟩ = .ok ["a.py"] :=
  FileSystem.reach_root _ _ rfl rfl (by decide) (by decide) (by decide) rfl

/-- The one file can be read. -/
theorem World.readFile_holding (data : List UInt8) :
    (World.holding ["a.py"] data).readFile ⟨"/a.py"⟩ = .ok data := by
  have hresolve : (World.holding ["a.py"] data).files.resolve [] ⟨"/a.py"⟩ =
      .ok (["a.py"], .file data false) := by
    rw [FileSystem.resolve, reach_holding]
    rfl
  rw [World.readFile, if_neg (by decide)]
  simp only [FileSystem.read, World.holding] at hresolve ⊢
  rw [hresolve]
  rfl

/-- The one file can be written. -/
theorem World.writeFile_holding (old data : List UInt8) :
    (World.holding ["a.py"] old).writeFile ⟨"/a.py"⟩ data = .ok (.holding ["a.py"] data) := by
  have hwrite : (World.holding ["a.py"] old).files.write [] ⟨"/a.py"⟩ data =
      .ok (World.holding ["a.py"] data).files := by
    rw [FileSystem.write, reach_holding]
    rfl
  rw [World.writeFile, if_neg (by decide)]
  simp only [World.holding] at hwrite ⊢
  rw [hwrite]

end BufferFormat
