import BufferFormat.Proofs.FileSystem

/-!
# File systems that differ in one file

To say that a run does not depend on a file is to compare two worlds that have the same everywhere
else. One of them may have the file and the other not, or it may have other contents. No way leads
through a file, so every path that leads somewhere in one world leads to the same place in the
other, and only at the one location there is something else to be found.

The entries are compared as lists, because the order of the entries is the order in which a
directory is listed.

## Main definitions

* `FileSystem.AgreeExcept`: Two file systems that differ in a file at a location.
* `World.AgreeExcept`: Two worlds that differ in a file at a location.

## Theorems

* `FileSystem.AgreeExcept.sameWays`: Paths lead to the same places.
* `World.AgreeExcept.isFile_eq`, `World.AgreeExcept.isDir_eq`: A path elsewhere names the same.
* `World.AgreeExcept.readFile_eq`: A file elsewhere is read alike.
* `World.AgreeExcept.writeFile_cases`: A file elsewhere is written alike, and that is all that
  happens.
-/

namespace BufferFormat

namespace FileSystem

/-- The entries anywhere but at a location. -/
def entriesExcept (loc : Location) (entries : List (Location × Entry)) :
    List (Location × Entry) :=
  entries.filter (·.1 ≠ loc)

/-- Two file systems with the same entries, except that each of them may have a file at `loc`. -/
structure AgreeExcept (loc : Location) (fs fs' : FileSystem) : Prop where
  entries : entriesExcept loc fs'.entries = entriesExcept loc fs.entries
  noWay : (fs.entry? loc).bind Entry.way? = none
  noWay' : (fs'.entry? loc).bind Entry.way? = none

theorem entriesExcept_cons_self (loc : Location) (e : Entry) (entries : List (Location × Entry)) :
    entriesExcept loc ((loc, e) :: entries) = entriesExcept loc entries :=
  List.filter_cons_of_neg fun h => of_decide_eq_true h rfl

theorem entriesExcept_cons_of_ne {loc other : Location} (h : other ≠ loc) (e : Entry)
    (entries : List (Location × Entry)) :
    entriesExcept loc ((other, e) :: entries) = (other, e) :: entriesExcept loc entries :=
  List.filter_cons_of_pos (decide_eq_true h)

/-- What is found elsewhere is found among the entries elsewhere. -/
theorem lookup_entriesExcept {loc other : Location} (h : other ≠ loc)
    (entries : List (Location × Entry)) :
    (entriesExcept loc entries).lookup other = entries.lookup other := by
  induction entries with
  | nil => rfl
  | cons first entries ih =>
      rcases first with ⟨l, e⟩
      by_cases hl : l = loc
      · rw [hl, entriesExcept_cons_self, List.lookup_cons, beq_eq_false_iff_ne.mpr h]
        exact ih
      · rw [entriesExcept_cons_of_ne hl, List.lookup_cons, List.lookup_cons, ih]

/-- To replace an entry elsewhere is to do so among the entries elsewhere. -/
theorem entriesExcept_setEntry {loc other : Location} (h : other ≠ loc) (e : Entry)
    (entries : List (Location × Entry)) :
    entriesExcept loc (setEntry other e entries) =
      setEntry other e (entriesExcept loc entries) := by
  induction entries with
  | nil => exact entriesExcept_cons_of_ne h e []
  | cons first entries ih =>
      rcases first with ⟨l, old⟩
      by_cases hl : l = loc
      · have hlo : l ≠ other := fun heq => h (heq.symm.trans hl)
        rw [setEntry, if_neg hlo, hl, entriesExcept_cons_self, entriesExcept_cons_self, ih]
      · rw [entriesExcept_cons_of_ne hl, setEntry, setEntry]
        by_cases hlo : l = other
        · rw [if_pos hlo, if_pos hlo, entriesExcept_cons_of_ne h]
        · rw [if_neg hlo, if_neg hlo, entriesExcept_cons_of_ne hl, ih]

namespace AgreeExcept

variable {loc : Location} {fs fs' : FileSystem}

theorem symm (h : AgreeExcept loc fs fs') : AgreeExcept loc fs' fs :=
  ⟨h.entries.symm, h.noWay', h.noWay⟩

theorem entry?_eq (h : AgreeExcept loc fs fs') {other : Location} (hother : other ≠ loc) :
    fs'.entry? other = fs.entry? other := by
  rw [ entry?, entry?, ← lookup_entriesExcept hother fs'.entries,
    ← lookup_entriesExcept hother fs.entries, h.entries]

/-- Paths lead to the same places, as no way leads through a file. -/
theorem sameWays (h : AgreeExcept loc fs fs') : SameWays fs fs' := by
  intro other
  by_cases hother : other = loc
  · rw [hother, h.noWay, h.noWay']
  · rw [h.entry?_eq hother]

/-- A path leads to the same place, or it leads nowhere. -/
theorem reach_cases (h : AgreeExcept loc fs fs') (cwd : Location) (p : Path) :
    (∃ l, fs.reach cwd p = .ok l ∧ fs'.reach cwd p = .ok l) ∨
      ∃ e e', fs.reach cwd p = .error e ∧ fs'.reach cwd p = .error e' := by
  cases hreach : fs.reach cwd p with
  | ok l => exact Or.inl ⟨l, rfl, reach_of_sameWays h.sameWays hreach⟩
  | error e =>
      cases hreach' : fs'.reach cwd p with
      | ok l =>
          rw [reach_of_sameWays h.sameWays.symm hreach'] at hreach
          cases hreach
      | error e' => exact Or.inr ⟨e, e', rfl, rfl⟩

/-- What stands at the location is a file or nothing. -/
theorem entry?_cases (h : AgreeExcept loc fs fs') :
    fs.entry? loc = none ∨ ∃ data executable, fs.entry? loc = some (.file data executable) := by
  have hway := h.noWay
  cases hentry : fs.entry? loc with
  | none => exact Or.inl rfl
  | some e =>
      rw [hentry] at hway
      cases e with
      | file data executable => exact Or.inr ⟨data, executable, rfl⟩
      | dir => cases hway
      | link target => cases hway

/-- To write the same elsewhere keeps the difference as it is. -/
theorem setEntry (h : AgreeExcept loc fs fs') {other : Location} (hother : other ≠ loc)
    (e : Entry) :
    AgreeExcept loc ⟨FileSystem.setEntry other e fs.entries⟩
      ⟨FileSystem.setEntry other e fs'.entries⟩ := by
  have hentry : ∀ files : FileSystem,
      FileSystem.entry? ⟨FileSystem.setEntry other e files.entries⟩ loc = files.entry? loc := by
    intro files
    rw [ entry?, entry?, lookup_setEntry, if_neg (Ne.symm hother)]
  refine ⟨?_, ?_, ?_⟩
  · rw [entriesExcept_setEntry hother, entriesExcept_setEntry hother, h.entries]
  · rw [hentry]
    exact h.noWay
  · rw [hentry]
    exact h.noWay'

end AgreeExcept

end FileSystem

/-! ## Worlds -/

/-- Two worlds that differ in a file at a location and in nothing else. -/
def World.AgreeExcept (loc : Location) (w w' : World) : Prop :=
  ∃ files, w.files.AgreeExcept loc files ∧ w' = { w with files }

namespace World.AgreeExcept

variable {loc : Location} {w w' : World} {p : Path}

theorem symm (h : AgreeExcept loc w w') : AgreeExcept loc w' w := by
  rcases h with ⟨files, hfiles, rfl⟩
  exact ⟨w.files, hfiles.symm, rfl⟩

theorem entry?_eq (h : AgreeExcept loc w w') {other : Location} (hother : other ≠ loc) :
    w'.files.entry? other = w.files.entry? other := by
  rcases h with ⟨files, hfiles, rfl⟩
  exact hfiles.entry?_eq hother

/-- A path that does not lead to the location names a file in both worlds or in none. -/
theorem isFile_eq (h : AgreeExcept loc w w') (hp : w.files.reach w.cwd p ≠ .ok loc) :
    w'.isFile p = w.isFile p := by
  rcases h with ⟨files, hfiles, rfl⟩
  have hsame : ∀ l, w.files.reach w.cwd p = .ok l → files.entry? l = w.files.entry? l := by
    intro l hl
    refine hfiles.entry?_eq ?_
    rintro rfl
    exact hp hl
  exact (@World.readFile_congr w { w with files } p rfl hfiles.sameWays hsame).1

/-- A path names a directory in both worlds or in none. -/
theorem isDir_eq (h : AgreeExcept loc w w') (p : Path) : w'.isDir p = w.isDir p := by
  rcases h with ⟨files, hfiles, rfl⟩
  unfold World.isDir FileSystem.isDir FileSystem.resolve
  rcases hfiles.reach_cases w.cwd p with ⟨l, hl, hl'⟩ | ⟨e, e', he, he'⟩
  · simp only [hl, hl', bind, Except.bind]
    by_cases hloc : l = loc
    · -- There is no directory at the location in either world.
      rw [hloc]
      rcases hfiles.entry?_cases with hnone | ⟨data, executable, hfile⟩ <;>
        rcases hfiles.symm.entry?_cases with hnone' | ⟨data', executable', hfile'⟩ <;>
        simp only [*]
    · rw [hfiles.entry?_eq hloc]
  · simp only [he, he', bind, Except.bind]

/-- A file elsewhere is read alike. -/
theorem readFile_eq (h : AgreeExcept loc w w') {l : Location} (hp : w.files.reach w.cwd p = .ok l)
    (hl : l ≠ loc) : w'.readFile p = w.readFile p := by
  rcases h with ⟨files, hfiles, rfl⟩
  simp only [World.readFile, FileSystem.read, FileSystem.resolve, hp,
    FileSystem.reach_of_sameWays hfiles.sameWays hp, bind, Except.bind, hfiles.entry?_eq hl]

/-- A file elsewhere is written alike, and nothing else is changed. -/
theorem writeFile_cases (h : AgreeExcept loc w w') {l : Location}
    (hp : w.files.reach w.cwd p = .ok l) (hl : l ≠ loc) (data : List UInt8) :
    (∃ fault, w.writeFile p data = .error fault ∧ w'.writeFile p data = .error fault) ∨
      ∃ v v', w.writeFile p data = .ok v ∧ w'.writeFile p data = .ok v' ∧
        AgreeExcept loc v v' := by
  rcases h with ⟨files, hfiles, rfl⟩
  simp only [World.writeFile, FileSystem.write, hp,
    FileSystem.reach_of_sameWays hfiles.sameWays hp, bind, Except.bind, hfiles.entry?_eq hl]
  cases World.hasNul p.text with
  | true => exact Or.inl ⟨_, rfl, rfl⟩
  | false =>
      have hset := fun e => hfiles.setEntry hl e
      cases w.files.entry? l with
      | none => exact Or.inr ⟨_, _, rfl, rfl, _, hset _, rfl⟩
      | some e =>
          cases e with
          | file old executable => exact Or.inr ⟨_, _, rfl, rfl, _, hset _, rfl⟩
          | dir => exact Or.inl ⟨_, rfl, rfl⟩
          | link target => exact Or.inl ⟨_, rfl, rfl⟩

end World.AgreeExcept

end BufferFormat
