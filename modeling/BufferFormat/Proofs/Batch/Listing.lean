import BufferFormat.Batch.Collect
import BufferFormat.Proofs.FileSystem.AgreeExcept
import BufferFormat.Proofs.FileSystem.Tree

/-!
# What is listed, and where it is

A command line names files and directories, and the program makes a list of paths of them. To say
that a file is not among those that are listed, the list has to be made with the places where the
walk finds the files: a path shows a file under the name by which the walk came to it, and a link
may give it another one.

A file that is not listed does not matter for the list. In a directory that is walked it stands for
nothing, whether it is there or not, and in what other files are called it does not occur.

## Main definitions

* `World.places`: The files that a command line names, with their places.

## Theorems

* `World.collect_eq_map_places`: They are the files that are collected.
* `World.places_eq`, `World.missing_eq`: A file that is not listed does not matter.
-/

namespace BufferFormat

namespace World

/-- What one name of a directory stands for: the file or, for a directory, what is below it. -/
def placesAt (w : World) (next : List Location → Location → Path → List (Path × Location))
    (above : List Location) (loc : Location) (dir : Path) (name : String) :
    List (Path × Location) :=
  match w.files.resolve loc ⟨name⟩ with
  | .ok (below, .file ..) =>
    if isPython (dir.join ⟨name⟩) then [(dir.join ⟨name⟩, below)] else []
  | .ok (below, .dir) =>
    if w.isLink loc name && (loc :: above).contains below then []
    else next (loc :: above) below (dir.join ⟨name⟩)
  | _ => []

/-- Python's files below a directory, with their places. -/
def placesBelow (w : World) : Nat → List Location → Location → Path → List (Path × Location)
  | 0, _, _, _ => []
  | depth + 1, above, loc, dir =>
    (w.files.namesIn loc).flatMap (w.placesAt (placesBelow w depth) above loc dir)

/-- The files that an argument names, with their places. -/
def placesOf (w : World) (depth : Nat) (input : Path) : List (Path × Location) :=
  match w.files.resolve w.cwd input with
  | .ok (loc, .file ..) => [(input, loc)]
  | .ok (loc, .dir) => w.placesBelow depth [] loc input
  | _ => []

/-- The files that a command line names, with their places. -/
def places (w : World) (line : CommandLine) : List (Path × Location) :=
  line.inputs.flatMap (w.placesOf line.walkDepth)

theorem filesBelow_eq_map (w : World) (depth : Nat) :
    ∀ (above : List Location) (loc : Location) (dir : Path),
      w.filesBelow depth above loc dir = (w.placesBelow depth above loc dir).map Prod.fst := by
  induction depth with
  | zero => exact fun _ _ _ => rfl
  | succ depth ih =>
      intro above loc dir
      have hname : ∀ name : String,
          (match w.files.resolve loc ⟨name⟩ with
            | .ok (_, .file ..) => if isPython (dir.join ⟨name⟩) then [dir.join ⟨name⟩] else []
            | .ok (below, .dir) =>
              if w.isLink loc name && (loc :: above).contains below then []
              else w.filesBelow depth (loc :: above) below (dir.join ⟨name⟩)
            | _ => []) =
            (w.placesAt (w.placesBelow depth) above loc dir name).map Prod.fst := by
        intro name
        unfold placesAt
        rcases w.files.resolve loc ⟨name⟩ with _ | ⟨below, e⟩
        · rfl
        · cases e with
          | file data executable => simp only [apply_ite (List.map Prod.fst)]; rfl
          | dir => simp only [apply_ite (List.map Prod.fst), ih]; rfl
          | link target => rfl
      rw [placesBelow, List.map_flatMap, ← funext hname]
      rfl

/-- The files that are collected are those that are listed with their places. -/
theorem collect_eq_map_places (w : World) (line : CommandLine) :
    w.collect line = (w.places line).map Prod.fst := by
  have hinput : ∀ input : Path, (w.filesOf? line.walkDepth input).getD [] =
      (w.placesOf line.walkDepth input).map Prod.fst := by
    intro input
    unfold filesOf? placesOf
    rcases w.files.resolve w.cwd input with _ | ⟨loc, e⟩
    · rfl
    · cases e with
      | file data executable => rfl
      | dir => exact filesBelow_eq_map w _ _ _ _
      | link target => rfl
  rw [collect, places, List.map_flatMap, ← funext hinput]

/-! ## A file that is not listed -/

section Unlisted

variable {loc : Location} {w w' : World}

/-- A path leads to a file at the location, if it leads to something. -/
def OnlyTo (loc : Location) (found : Except OsError (Location × Entry)) : Prop :=
  ∀ l e, found = .ok (l, e) → l = loc ∧ ∃ data executable, e = .file data executable

theorem onlyTo_resolve {fs : FileSystem} {cwd : Location} {p : Path}
    (hway : (fs.entry? loc).bind Entry.way? = none)
    (hloc : ∀ l e, fs.resolve cwd p = .ok (l, e) → l = loc) : OnlyTo loc (fs.resolve cwd p) := by
  intro l e hresolve
  obtain rfl := hloc l e hresolve
  rw [((FileSystem.resolve_eq_ok_iff _ _ _ _ _).mp hresolve).2] at hway
  cases e with
  | file data executable => exact ⟨rfl, data, executable, rfl⟩
  | dir => cases hway
  | link target => cases hway

/-- A path that leads to an entry elsewhere does so in both worlds. -/
theorem AgreeExcept.resolve_eq (h : AgreeExcept loc w w') {cwd : Location} {p : Path}
    {l : Location} {e : Entry} (hl : l ≠ loc) (hresolve : w.files.resolve cwd p = .ok (l, e)) :
    w'.files.resolve cwd p = .ok (l, e) := by
  rcases h with ⟨files, hfiles, rfl⟩
  rcases (FileSystem.resolve_eq_ok_iff _ _ _ _ _).mp hresolve with ⟨hreach, he⟩
  exact (FileSystem.resolve_eq_ok_iff _ _ _ _ _).mpr
    ⟨FileSystem.reach_of_sameWays hfiles.sameWays hreach, (hfiles.entry?_eq hl).trans he⟩

/-- A path leads to the same entry in both worlds, or in both it leads to the location at most. -/
theorem AgreeExcept.resolve_cases (h : AgreeExcept loc w w') (cwd : Location) (p : Path) :
    w'.files.resolve cwd p = w.files.resolve cwd p ∨
      OnlyTo loc (w.files.resolve cwd p) ∧ OnlyTo loc (w'.files.resolve cwd p) := by
  by_cases hsame : ∃ l e, l ≠ loc ∧ w.files.resolve cwd p = .ok (l, e)
  · rcases hsame with ⟨l, e, hl, hresolve⟩
    exact Or.inl ((h.resolve_eq hl hresolve).trans hresolve.symm)
  · have hloc : ∀ l e, w.files.resolve cwd p = .ok (l, e) → l = loc := by
      intro l e hresolve
      by_contra hl
      exact hsame ⟨l, e, hl, hresolve⟩
    have hloc' : ∀ l e, w'.files.resolve cwd p = .ok (l, e) → l = loc := by
      intro l e hresolve
      by_contra hl
      exact hsame ⟨l, e, hl, h.symm.resolve_eq hl hresolve⟩
    rcases h with ⟨files, hfiles, rfl⟩
    exact Or.inr ⟨onlyTo_resolve hfiles.noWay hloc, onlyTo_resolve hfiles.noWay' hloc'⟩

theorem isLink_eq (h : AgreeExcept loc w w') (dir : Location) (name : String) :
    w'.isLink dir name = w.isLink dir name := by
  rcases h with ⟨files, hfiles, rfl⟩
  unfold isLink
  by_cases hloc : dir ++ [name] = loc
  · rw [hloc]
    rcases hfiles.entry?_cases with hnone | ⟨data, executable, hfile⟩ <;>
      rcases hfiles.symm.entry?_cases with hnone' | ⟨data', executable', hfile'⟩ <;>
      simp only [*]
  · simp only [hfiles.entry?_eq hloc]

/-- A name that leads to the location at most stands for nothing, if the file is not listed. -/
theorem placesAt_of_onlyTo {next : List Location → Location → Path → List (Path × Location)}
    {above : List Location} {dirLoc : Location} {dir : Path} {name : String}
    (honly : OnlyTo loc (w.files.resolve dirLoc ⟨name⟩))
    (hplaces : ∀ f ∈ w.placesAt next above dirLoc dir name, f.2 ≠ loc) :
    w.placesAt next above dirLoc dir name = [] := by
  unfold placesAt at hplaces ⊢
  cases hresolve : w.files.resolve dirLoc ⟨name⟩ with
  | error e => rfl
  | ok found =>
      rcases found with ⟨l, e⟩
      rcases honly l e hresolve with ⟨rfl, data, executable, rfl⟩
      simp only [hresolve] at hplaces ⊢
      split
      · -- A Python file would be listed.
        rename_i hpython
        rw [if_pos hpython] at hplaces
        exact absurd rfl (hplaces _ List.mem_cons_self)
      · rfl

/-- A name stands for the same in both worlds. -/
theorem placesAt_eq (h : AgreeExcept loc w w')
    {next next' : List Location → Location → Path → List (Path × Location)}
    {above : List Location} {dirLoc : Location} {dir : Path} {name : String}
    (hnext : ∀ above l p, (∀ f ∈ next above l p, f.2 ≠ loc) → (∀ f ∈ next' above l p, f.2 ≠ loc) →
      next' above l p = next above l p)
    (hplaces : ∀ f ∈ w.placesAt next above dirLoc dir name, f.2 ≠ loc)
    (hplaces' : ∀ f ∈ w'.placesAt next' above dirLoc dir name, f.2 ≠ loc) :
    w'.placesAt next' above dirLoc dir name = w.placesAt next above dirLoc dir name := by
  rcases h.resolve_cases dirLoc ⟨name⟩ with heq | ⟨honly, honly'⟩
  · unfold placesAt at hplaces hplaces' ⊢
    rw [isLink_eq h, heq] at hplaces' ⊢
    rcases hresolve : w.files.resolve dirLoc ⟨name⟩ with _ | ⟨l, e⟩
    · rfl
    · cases e with
      | file data executable => rfl
      | link target => rfl
      | dir =>
          simp only [hresolve] at hplaces hplaces' ⊢
          split
          · rfl
          · rename_i hinside
            rw [if_neg hinside] at hplaces hplaces'
            exact hnext _ _ _ hplaces hplaces'
  · rw [placesAt_of_onlyTo honly hplaces, placesAt_of_onlyTo honly' hplaces']

/-- The name of an entry in a directory. -/
def nameIn (dirLoc : Location) (e : Location × Entry) : Option String :=
  match e.1.getLast? with
  | some name => if e.1.dropLast = dirLoc then some name else none
  | none => none

theorem append_of_nameIn {dirLoc : Location} {e : Location × Entry} {name : String}
    (h : nameIn dirLoc e = some name) : dirLoc ++ [name] = e.1 := by
  unfold nameIn at h
  split at h
  · rename_i last hlast
    split at h
    · rename_i hdir
      rw [← Option.some.inj h, ← hdir]
      exact List.dropLast_append_getLast? _ hlast
    · cases h
  · cases h

/-- What the names in a directory stand for is what those elsewhere stand for, if the name of the
    location stands for nothing. -/
theorem flatMap_nameIn {β : Type} (dirLoc : Location) (g : String → List β)
    (entries : List (Location × Entry))
    (hnone : ∀ name ∈ entries.filterMap (nameIn dirLoc), dirLoc ++ [name] = loc → g name = []) :
    (entries.filterMap (nameIn dirLoc)).flatMap g =
      ((FileSystem.entriesExcept loc entries).filterMap (nameIn dirLoc)).flatMap g := by
  induction entries with
  | nil => rfl
  | cons e entries ih =>
      rcases e with ⟨l, e⟩
      have hrest := ih fun name hname =>
        hnone name (List.filterMap_subset _ (List.subset_cons_self _ _) hname)
      by_cases hl : l = loc
      · subst hl
        rw [FileSystem.entriesExcept_cons_self, ← hrest, List.filterMap_cons]
        cases hname : nameIn dirLoc (l, e) with
        | none => rfl
        | some name =>
            have hmem : name ∈ ((l, e) :: entries).filterMap (nameIn dirLoc) :=
              List.mem_filterMap.mpr ⟨_, List.mem_cons_self, hname⟩
            simp only [List.flatMap_cons, hnone name hmem (append_of_nameIn hname),
              List.nil_append]
      · rw [FileSystem.entriesExcept_cons_of_ne hl, List.filterMap_cons, List.filterMap_cons]
        cases nameIn dirLoc (l, e) with
        | none => exact hrest
        | some name => simp only [List.flatMap_cons, hrest]

/-- A name leads to its location at most, if there is neither a directory nor a link. -/
theorem onlyTo_name {fs : FileSystem} {dirLoc : Location} {name : String}
    (hname : FileSystem.IsName name)
    (hway : (fs.entry? (dirLoc ++ [name])).bind Entry.way? = none) :
    OnlyTo (dirLoc ++ [name]) (fs.resolve dirLoc ⟨name⟩) := by
  refine onlyTo_resolve hway fun l e hresolve => ?_
  have hreach := ((FileSystem.resolve_eq_ok_iff _ _ _ _ _).mp hresolve).1
  rw [FileSystem.reach_name fs dirLoc hname] at hreach
  by_cases hdir : fs.entry? dirLoc = some .dir
  · rw [FileSystem.walkTo_last fs _ dirLoc name hdir hname.not_stay hname.not_up hname.not_long
      hway] at hreach
    exact (Except.ok.inj hreach).symm
  · rcases fs.walkTo_of_not_dir FileSystem.mostLinks hdir name [] with ⟨e, herror⟩
    rw [herror] at hreach
    cases hreach

/-- Below a directory, the same is listed in both worlds. -/
theorem placesBelow_eq {parent : Location} {name : String} (hname : FileSystem.IsName name)
    (h : AgreeExcept (parent ++ [name]) w w') (depth : Nat) :
    ∀ (above : List Location) (l : Location) (dir : Path),
      (∀ f ∈ w.placesBelow depth above l dir, f.2 ≠ parent ++ [name]) →
      (∀ f ∈ w'.placesBelow depth above l dir, f.2 ≠ parent ++ [name]) →
      w'.placesBelow depth above l dir = w.placesBelow depth above l dir := by
  induction depth with
  | zero => exact fun _ _ _ _ _ => rfl
  | succ depth ih =>
      intro above l dir hplaces hplaces'
      rw [placesBelow, List.forall_mem_flatMap] at hplaces hplaces'
      have hways : (w.files.entry? (parent ++ [name])).bind Entry.way? = none ∧
          (w'.files.entry? (parent ++ [name])).bind Entry.way? = none := by
        rcases h with ⟨files, hfiles, rfl⟩
        exact ⟨hfiles.noWay, hfiles.noWay'⟩
      -- The name of the location stands for nothing in either world.
      have hnone : ∀ v : World, (v.files.entry? (parent ++ [name])).bind Entry.way? = none →
          (∀ other ∈ v.files.namesIn l,
            ∀ f ∈ v.placesAt (v.placesBelow depth) above l dir other, f.2 ≠ parent ++ [name]) →
          ∀ other ∈ v.files.namesIn l, l ++ [other] = parent ++ [name] →
            v.placesAt (v.placesBelow depth) above l dir other = [] := by
        intro v hway hunlisted other hother heq
        obtain rfl : other = name := List.singleton_inj.mp (List.append_inj_right' heq rfl)
        rw [← heq] at hway hunlisted
        exact placesAt_of_onlyTo (onlyTo_name hname hway) (hunlisted other hother)
      have hentries : FileSystem.entriesExcept (parent ++ [name]) w'.files.entries =
          FileSystem.entriesExcept (parent ++ [name]) w.files.entries := by
        rcases h with ⟨files, hfiles, rfl⟩
        exact hfiles.entries
      have hnames : ∀ v : World, v.files.namesIn l = v.files.entries.filterMap (nameIn l) :=
        fun _ => rfl
      rw [placesBelow, placesBelow, hnames, hnames,
        flatMap_nameIn l _ _ (hnone w' hways.2 hplaces'),
        flatMap_nameIn l _ _ (hnone w hways.1 hplaces), hentries]
      refine List.flatMap_congr fun other hother => ?_
      have hmem : other ∈ w.files.namesIn l :=
        List.filterMap_subset _ (List.filter_subset_self _) hother
      rw [← hentries] at hother
      have hmem' : other ∈ w'.files.namesIn l :=
        List.filterMap_subset _ (List.filter_subset_self _) hother
      exact placesAt_eq h ih (hplaces other hmem) (hplaces' other hmem')

/-- An argument that leads to the location at most leads to nothing, if the file is not listed. -/
theorem error_of_onlyTo {depth : Nat} {input : Path}
    (honly : OnlyTo loc (w.files.resolve w.cwd input))
    (hplaces : ∀ f ∈ w.placesOf depth input, f.2 ≠ loc) :
    ∃ e, w.files.resolve w.cwd input = .error e := by
  unfold placesOf at hplaces
  rcases hresolve : w.files.resolve w.cwd input with e | ⟨l, e⟩
  · exact ⟨e, rfl⟩
  · rcases honly l e hresolve with ⟨rfl, data, executable, rfl⟩
    simp only [hresolve] at hplaces
    exact absurd rfl (hplaces _ List.mem_cons_self)

/-- An argument leads to the same in both worlds, or to nothing in both. -/
theorem AgreeExcept.resolve_cases_of_unlisted (h : AgreeExcept loc w w') {depth : Nat}
    {input : Path} (hplaces : ∀ f ∈ w.placesOf depth input, f.2 ≠ loc)
    (hplaces' : ∀ f ∈ w'.placesOf depth input, f.2 ≠ loc) :
    w'.files.resolve w'.cwd input = w.files.resolve w.cwd input ∨
      (∃ e, w.files.resolve w.cwd input = .error e) ∧
        ∃ e, w'.files.resolve w'.cwd input = .error e := by
  have hcwd : w'.cwd = w.cwd := by
    rcases h with ⟨files, hfiles, rfl⟩
    rfl
  rcases h.resolve_cases w.cwd input with heq | ⟨honly, honly'⟩
  · exact Or.inl (by rw [hcwd, heq])
  · rw [← hcwd] at honly'
    exact Or.inr ⟨error_of_onlyTo honly hplaces, error_of_onlyTo honly' hplaces'⟩

section CommandLine

variable {parent : Location} {name : String} {line : CommandLine}

/-- If a file is listed neither where it is there nor where it is not, it does not matter for what
    is listed. -/
theorem places_eq (hname : FileSystem.IsName name) (h : AgreeExcept (parent ++ [name]) w w')
    (hplaces : ∀ f ∈ w.places line, f.2 ≠ parent ++ [name])
    (hplaces' : ∀ f ∈ w'.places line, f.2 ≠ parent ++ [name]) :
    w'.places line = w.places line := by
  rw [places, List.forall_mem_flatMap] at hplaces hplaces'
  refine List.flatMap_congr fun input hinput => ?_
  have hone := hplaces input hinput
  have hone' := hplaces' input hinput
  rcases h.resolve_cases_of_unlisted hone hone' with heq | ⟨⟨e, he⟩, e', he'⟩
  · unfold placesOf at hone hone' ⊢
    rw [heq] at hone' ⊢
    rcases hresolve : w.files.resolve w.cwd input with _ | ⟨l, e⟩
    · rfl
    · cases e with
      | file data executable => rfl
      | link target => rfl
      | dir =>
          simp only [hresolve] at hone hone' ⊢
          exact placesBelow_eq hname h _ _ _ _ hone hone'
  · simp only [placesOf, he, he']

/-- Neither does it matter for what is missing. -/
theorem missing_eq (h : AgreeExcept loc w w') (hplaces : ∀ f ∈ w.places line, f.2 ≠ loc)
    (hplaces' : ∀ f ∈ w'.places line, f.2 ≠ loc) : w'.missing line = w.missing line := by
  rw [places, List.forall_mem_flatMap] at hplaces hplaces'
  refine List.filter_congr fun input hinput => ?_
  unfold filesOf?
  rcases h.resolve_cases_of_unlisted (hplaces input hinput) (hplaces' input hinput) with
    heq | ⟨⟨e, he⟩, e', he'⟩
  · rw [heq]
    rcases w.files.resolve w.cwd input with _ | ⟨l, e⟩
    · rfl
    · cases e <;> rfl
  · simp only [he, he']

end CommandLine

end Unlisted

end World

end BufferFormat
