import BufferFormat.Proofs.FileSystem
import BufferFormat.Proofs.Path
import Mathlib.Tactic.Tauto

/-!
# Where a spelling leads

Without links a walk is easy to describe: it goes from directory to directory along the steps of the
path, and separators and dots make it stay where it is. A path without double dots therefore leads
to its steps, taken from the root or from the working directory, and to no other place, provided
that everything before the last step is a directory. Nothing else about the spelling matters, except
that a separator or a dot at the end asks for a directory.

The working directory is a directory itself, reached from the root by names. That makes a path and
its absolute form lead to the same place.

## Main definitions

* `FileSystem.Unlinked`: A file system without links.
* `FileSystem.IsName`: A name that a directory can hold.
* `FileSystem.Through`: Names that lead from directory to directory.
* `FileSystem.follow`, `FileSystem.seek`: A walk without links, and what it leads to.
* `FileSystem.DirIfAsked`: What a separator or a dot at the end of a walk asks for.
* `World.Standing`: A world whose working directory is there.

## Theorems

* `FileSystem.walkTo_cons_eq_ok_iff`: One piece of a walk.
* `FileSystem.walkTo_eq_ok_iff_follow`: A walk as a recursion on its pieces.
* `FileSystem.walkTo_eq_ok_iff`, `FileSystem.reach_eq_ok_iff`: A walk without double dots.
* `FileSystem.reach_of_spells`: Whatever spells a location leads there.
* `World.Standing.absoluteFrom_of_file`: The absolute form of a path that leads to a file spells the
  location of the file.
-/

namespace BufferFormat

/-- Whether an entry leads somewhere else. -/
def Entry.isLink : Entry → Bool
  | .link _ => true
  | _ => false

namespace FileSystem

/-- There are no links. -/
def Unlinked (fs : FileSystem) : Prop :=
  ∀ e ∈ fs.entries, e.2.isLink = false

instance (fs : FileSystem) : Decidable fs.Unlinked :=
  inferInstanceAs (Decidable (∀ e ∈ fs.entries, e.2.isLink = false))

/-- A name that a directory can hold. -/
def IsName (name : String) : Prop :=
  Path.IsStep name ∧ name ≠ ".." ∧ name.utf8ByteSize ≤ longestName

instance (name : String) : Decidable (IsName name) :=
  inferInstanceAs (Decidable (_ ∧ _ ∧ _))

/-- From `loc` on, every name follows a directory. What the last name leads to may be anything. -/
def Through (fs : FileSystem) : Location → List String → Prop
  | _, [] => True
  | loc, name :: names =>
    fs.entry? loc = some .dir ∧ IsName name ∧ Through fs (loc ++ [name]) names

/-! ## Walks without links -/

theorem Unlinked.entry?_ne_link {fs : FileSystem} (h : fs.Unlinked) (loc : Location)
    (target : Path) : fs.entry? loc ≠ some (.link target) := by
  intro hentry
  unfold entry? at hentry
  split at hentry
  · cases hentry
  · rcases List.lookup_eq_some_iff.mp hentry with ⟨before, after, hentries, _⟩
    have hmem : (loc, .link target) ∈ fs.entries := by
      rw [hentries]
      exact List.mem_append_right before List.mem_cons_self
    cases h _ hmem

/-- No walk goes on from what is no directory. -/
theorem walkTo_of_not_dir (fs : FileSystem) (links : Nat) {l : Location}
    (h : fs.entry? l ≠ some .dir) (piece : String) (rest : List String) :
    ∃ e, fs.walkTo links l (piece :: rest) = .error e := by
  rw [walkTo]
  split
  · rename_i hdir
    exact absurd hdir h
  · exact ⟨_, rfl⟩
  · exact ⟨_, rfl⟩

theorem isVoid_toList (piece : String) :
    Path.isVoid piece.toList = (piece.isEmpty || piece == ".") := by
  rw [Path.isVoid, Bool.eq_iff_iff]
  simp only [Bool.or_eq_true, List.isEmpty_iff, String.toList_eq_nil_iff, String.isEmpty_iff,
    beq_iff_eq, ← String.toList_inj]
  rfl

/-- A piece of a walk stays in a directory, goes up, or takes a name. -/
theorem walkTo_cons_eq_ok_iff {fs : FileSystem} (h : fs.Unlinked) (links : Nat) (l loc : Location)
    (piece : String) (rest : List String) :
    fs.walkTo links l (piece :: rest) = .ok loc ↔ fs.entry? l = some .dir ∧
      if Path.isVoid piece.toList then fs.walkTo links l rest = .ok loc
      else if piece = ".." then fs.walkTo links l.dropLast rest = .ok loc
      else piece.utf8ByteSize ≤ longestName ∧ fs.walkTo links (l ++ [piece]) rest = .ok loc := by
  rw [walkTo, isVoid_toList]
  split
  · rename_i hdir
    simp only [hdir, true_and]
    split
    · rfl
    · simp only [beq_iff_eq]
      split
      · rfl
      · split
        · rename_i hlong
          simp only [reduceCtorEq, Nat.not_le.mpr hlong, false_and]
        · rename_i hlong
          simp only [Nat.not_lt.mp hlong, true_and]
          cases hentry : fs.entry? (l ++ [piece]) with
          | some e =>
              cases e with
              | link target => exact absurd hentry (h.entry?_ne_link _ target)
              | file data executable => rfl
              | dir => rfl
          | none =>
              -- A walk does not go on from what does not exist.
              cases rest with
              | nil => simp only [List.isEmpty_nil, if_true, walkTo]
              | cons next rest =>
                  simp only [List.isEmpty_cons, Bool.false_eq_true, if_false, walkTo, hentry]
  · rename_i e hdir hentry
    simp only [hentry, Option.some.injEq, reduceCtorEq, false_iff, not_and]
    exact fun h => absurd h hdir
  · rename_i hentry
    simp only [hentry, reduceCtorEq, false_and]

/-- A walk without links, which needs no allowance for them. -/
def follow (fs : FileSystem) : Location → List String → Option Location
  | l, [] => some l
  | l, piece :: rest =>
    if fs.entry? l = some .dir then
      if Path.isVoid piece.toList then follow fs l rest
      else if piece = ".." then follow fs l.dropLast rest
      else if piece.utf8ByteSize ≤ longestName then follow fs (l ++ [piece]) rest
      else none
    else none

theorem walkTo_eq_ok_iff_follow {fs : FileSystem} (h : fs.Unlinked) (links : Nat)
    (l loc : Location) (rest : List String) :
    fs.walkTo links l rest = .ok loc ↔ fs.follow l rest = some loc := by
  induction rest generalizing l with
  | nil => rw [walkTo, follow, Except.ok.injEq, Option.some.injEq]
  | cons piece rest ih =>
      rw [walkTo_cons_eq_ok_iff h, follow]
      by_cases hdir : fs.entry? l = some .dir
      · rw [if_pos hdir, and_iff_right hdir]
        split
        · exact ih l
        · split
          · exact ih l.dropLast
          · split
            · rename_i hlong
              rw [and_iff_right hlong]
              exact ih _
            · rename_i hlong
              exact iff_of_false (fun h => hlong h.1) (Option.some_ne_none loc).symm
      · rw [if_neg hdir]
        exact iff_of_false (fun h => hdir h.1) (Option.some_ne_none loc).symm

/-- Without links, where a path leads can be followed. -/
theorem reach_eq_ok_iff_follow {fs : FileSystem} (h : fs.Unlinked) {cwd : Location} {p : Path}
    (hp : ¬p.text.isEmpty = true) (loc : Location) :
    fs.reach cwd p = .ok loc ↔ fs.follow (p.base cwd) (pieces p) = some loc := by
  rw [reach, if_neg hp]
  exact walkTo_eq_ok_iff_follow h _ _ _ _

/-- What a path leads to in a file system without links. -/
def seek (fs : FileSystem) (cwd : Location) (p : Path) : Option Entry :=
  if p.text.isEmpty then none else (fs.follow (p.base cwd) (pieces p)).bind fs.entry?

theorem resolve_eq_ok_iff_seek {fs : FileSystem} (h : fs.Unlinked) (cwd : Location) (p : Path)
    (e : Entry) : (∃ loc, fs.resolve cwd p = .ok (loc, e)) ↔ fs.seek cwd p = some e := by
  simp only [resolve_eq_ok_iff, seek]
  split
  · rename_i hempty
    simp only [reach, if_pos hempty, reduceCtorEq, false_and, exists_false]
  · rename_i hempty
    simp only [reach_eq_ok_iff_follow h hempty, Option.bind_eq_some_iff]

theorem isFile_eq_seek {fs : FileSystem} (h : fs.Unlinked) (cwd : Location) (p : Path) :
    fs.isFile cwd p = (fs.seek cwd p).any (·.way?.isNone) := by
  rw [Bool.eq_iff_iff, isFile_iff]
  simp only [← resolve_eq_ok_iff, Option.any_eq_true]
  constructor
  · rintro ⟨loc, data, executable, hresolve⟩
    exact ⟨_, (resolve_eq_ok_iff_seek h cwd p _).mp ⟨loc, hresolve⟩, rfl⟩
  · rintro ⟨e, hseek, hway⟩
    rcases (resolve_eq_ok_iff_seek h cwd p e).mpr hseek with ⟨loc, hresolve⟩
    cases e with
    | file data executable => exact ⟨loc, data, executable, hresolve⟩
    | dir => cases hway
    | link target => cases hway

theorem isDir_eq_seek {fs : FileSystem} (h : fs.Unlinked) (cwd : Location) (p : Path) :
    fs.isDir cwd p = (fs.seek cwd p == some .dir) := by
  rw [Bool.eq_iff_iff, beq_iff_eq, ← resolve_eq_ok_iff_seek h, isDir]
  constructor
  · intro hdir
    split at hdir
    · rename_i loc hresolve
      exact ⟨loc, hresolve⟩
    · cases hdir
  · rintro ⟨loc, hresolve⟩
    rw [hresolve]

theorem read_eq_ok_iff_seek {fs : FileSystem} (h : fs.Unlinked) (cwd : Location) (p : Path)
    (data : List UInt8) :
    fs.read cwd p = .ok data ↔ ∃ executable, fs.seek cwd p = some (.file data executable) := by
  simp only [read_eq_ok_iff, ← resolve_eq_ok_iff_seek h, resolve_eq_ok_iff]
  exact exists_comm

/-- The pieces that are no step make a walk stay where it is. -/
def stepsIn (rest : List String) : List String :=
  rest.filter fun piece => !Path.isVoid piece.toList

theorem stepsIn_cons_of_void {piece : String} (h : Path.isVoid piece.toList = true)
    (rest : List String) : stepsIn (piece :: rest) = stepsIn rest :=
  List.filter_cons_of_neg (by rw [h]; decide)

theorem stepsIn_cons_of_step {piece : String} (h : Path.isVoid piece.toList = false)
    (rest : List String) : stepsIn (piece :: rest) = piece :: stepsIn rest :=
  List.filter_cons_of_pos (by rw [h]; rfl)

/-- Where a walk ends there is a directory, if its last piece asks for one. -/
def DirIfAsked (fs : FileSystem) (loc : Location) (rest : List String) : Prop :=
  ∀ last ∈ rest.getLast?, Path.isVoid last.toList = true → fs.entry? loc = some .dir

theorem dirIfAsked_nil (fs : FileSystem) (loc : Location) : fs.DirIfAsked loc [] :=
  nofun

/-- A piece that is a step asks for nothing. -/
theorem dirIfAsked_cons_of_step {piece : String} (h : Path.isVoid piece.toList = false)
    (fs : FileSystem) (loc : Location) (rest : List String) :
    fs.DirIfAsked loc (piece :: rest) ↔ fs.DirIfAsked loc rest := by
  cases rest with
  | nil =>
      refine iff_of_true (fun last hlast hvoid => ?_) (dirIfAsked_nil _ _)
      obtain rfl : piece = last := Option.some.inj hlast
      rw [h] at hvoid
      cases hvoid
  | cons next rest => rfl

/-- A piece that is no step asks for a directory, if nothing follows it. -/
theorem dirIfAsked_cons_of_void {piece : String} (h : Path.isVoid piece.toList = true)
    (fs : FileSystem) (loc : Location) (rest : List String) :
    fs.DirIfAsked loc (piece :: rest) ↔
      fs.DirIfAsked loc rest ∧ (rest = [] → fs.entry? loc = some .dir) := by
  cases rest with
  | nil =>
      constructor
      · exact fun hdir => ⟨dirIfAsked_nil _ _, fun _ => hdir piece rfl h⟩
      · exact fun hdir _ _ _ => hdir.2 rfl
  | cons next rest => exact (and_iff_left nofun).symm

/-- Where a walk begins there is a directory: the first name follows it, or it is where the walk
    ends, and a directory is asked for. -/
theorem Through.dir {fs : FileSystem} {l : Location} {rest : List String}
    (h : fs.Through l (stepsIn rest)) (hne : rest ≠ [])
    (hend : fs.DirIfAsked (l ++ stepsIn rest) rest) : fs.entry? l = some .dir := by
  cases hsteps : stepsIn rest with
  | cons name names =>
      rw [hsteps] at h
      exact h.1
  | nil =>
      have hlast := hend _ (List.getLast?_eq_some_getLast hne)
      rw [hsteps, List.append_nil] at hlast
      have hvoid := List.filter_eq_nil_iff.mp hsteps _ (List.getLast_mem hne)
      rw [Bool.not_eq_true, Bool.not_eq_false'] at hvoid
      exact hlast hvoid

/-- Without links and double dots a walk follows its steps, and it ends in a directory if its last
    piece asks for one. -/
theorem walkTo_eq_ok_iff {fs : FileSystem} (h : fs.Unlinked) (links : Nat) {rest : List String}
    (hslash : ∀ piece ∈ rest, '/' ∉ piece.toList) (hup : ".." ∉ rest) (l loc : Location) :
    fs.walkTo links l rest = .ok loc ↔
      loc = l ++ stepsIn rest ∧ fs.Through l (stepsIn rest) ∧ fs.DirIfAsked loc rest := by
  induction rest generalizing l with
  | nil =>
      rw [walkTo, stepsIn, List.filter_nil, List.append_nil, Except.ok.injEq, eq_comm]
      exact (and_iff_left ⟨trivial, dirIfAsked_nil _ _⟩).symm
  | cons piece rest ih =>
      rw [List.forall_mem_cons] at hslash
      rw [List.mem_cons, not_or] at hup
      have ih := ih hslash.2 hup.2
      rw [walkTo_cons_eq_ok_iff h]
      cases hvoid : Path.isVoid piece.toList with
      | true =>
          -- The walk stays, and it has to be in a directory for that.
          rw [if_pos rfl, ih, stepsIn_cons_of_void hvoid]
          constructor
          · rintro ⟨hdir, rfl, hthrough, hend⟩
            refine ⟨rfl, hthrough, (dirIfAsked_cons_of_void hvoid _ _ _).mpr ⟨hend, ?_⟩⟩
            rintro rfl
            rw [stepsIn, List.filter_nil, List.append_nil]
            exact hdir
          · rintro ⟨rfl, hthrough, hend⟩
            have hdir : fs.entry? l = some .dir := by
              rw [← stepsIn_cons_of_void hvoid] at hthrough hend
              exact hthrough.dir (List.cons_ne_nil _ _) hend
            exact ⟨hdir, rfl, hthrough, ((dirIfAsked_cons_of_void hvoid _ _ _).mp hend).1⟩
      | false =>
          rw [if_neg Bool.false_ne_true, if_neg (Ne.symm hup.1), ih, stepsIn_cons_of_step hvoid,
            dirIfAsked_cons_of_step hvoid, Through, List.append_assoc, List.singleton_append,
            IsName, Path.IsStep]
          have hname := hslash.1
          have hdots := Ne.symm hup.1
          tauto

/-- Names that lead through directories can be followed in two parts. -/
theorem through_append (fs : FileSystem) (l : Location) (names others : List String) :
    fs.Through l (names ++ others) ↔ fs.Through l names ∧ fs.Through (l ++ names) others := by
  induction names generalizing l with
  | nil => rw [List.nil_append, List.append_nil, Through, true_and]
  | cons name names ih =>
      rw [List.cons_append, Through, Through, ih, List.append_assoc, List.singleton_append,
        and_assoc, and_assoc]

theorem Through.isName {fs : FileSystem} {l : Location} {names : List String}
    (h : fs.Through l names) : ∀ name ∈ names, IsName name := by
  induction names generalizing l with
  | nil => exact nofun
  | cons name names ih => exact List.forall_mem_cons.mpr ⟨h.2.1, ih h.2.2⟩

/-! ## Paths without double dots -/

theorem stepsIn_pieces (p : Path) : stepsIn (pieces p) = p.steps := by
  simp only [stepsIn, pieces, Path.steps, Path.stepsOf, List.filter_map, Function.comp_def,
    String.toList_ofList]

theorem slash_not_mem_of_mem_pieces {p : Path} : ∀ piece ∈ pieces p, '/' ∉ piece.toList := by
  intro piece hpiece
  rcases List.mem_map.mp hpiece with ⟨cs, hcs, rfl⟩
  rw [String.toList_ofList]
  exact Text.not_mem_of_mem_splitAt hcs

theorem up_not_mem_pieces {p : Path} (hup : ".." ∉ p.steps) : ".." ∉ pieces p := by
  intro hmem
  rw [← stepsIn_pieces] at hup
  exact hup (List.mem_filter.mpr ⟨hmem, by decide⟩)

/-- A path ends in a step exactly if its last piece is one. -/
theorem endsInStep_iff (p : Path) :
    p.EndsInStep ↔ ∀ last ∈ (pieces p).getLast?, Path.isVoid last.toList = false := by
  rw [pieces, List.getLast?_map]
  constructor
  · rintro ⟨before, last, hlast, hvoid⟩
    rw [hlast, List.getLast?_concat]
    rintro _ ⟨⟩
    rw [String.toList_ofList]
    exact hvoid
  · intro h
    rcases List.eq_nil_or_concat (Text.splitAt '/' p.text.toList) with hnil | ⟨before, last, hlast⟩
    · exact absurd hnil (Text.splitAt_ne_nil _ _)
    · rw [List.concat_eq_append] at hlast
      rw [hlast, List.getLast?_concat] at h
      have hvoid := h (String.ofList last) rfl
      rw [String.toList_ofList] at hvoid
      exact ⟨before, last, hlast, hvoid⟩

/-- A path that ends in a step leads to its steps, if they can be followed. -/
theorem reach_eq_ok_iff {fs : FileSystem} (h : fs.Unlinked) {p : Path} (hup : ".." ∉ p.steps)
    (hend : p.EndsInStep) (cwd loc : Location) :
    fs.reach cwd p = .ok loc ↔
      loc = p.base cwd ++ p.steps ∧ fs.Through (p.base cwd) p.steps := by
  have htext : ¬p.text.isEmpty = true := by
    intro hempty
    have hlast := (endsInStep_iff p).mp hend
    rw [pieces, String.isEmpty_iff.mp hempty] at hlast
    cases hlast _ rfl
  have hwalk := walkTo_eq_ok_iff h mostLinks slash_not_mem_of_mem_pieces (up_not_mem_pieces hup)
    (p.base cwd) loc
  rw [stepsIn_pieces] at hwalk
  rw [reach, if_neg htext]
  refine hwalk.trans (and_congr_right fun _ => and_iff_left ?_)
  intro last hlast hvoid
  rw [(endsInStep_iff p).mp hend last hlast] at hvoid
  cases hvoid

/-- A path that leads to a file ends in a step, as anything else at its end asks for a directory. -/
theorem endsInStep_of_reach_file {fs : FileSystem} (h : fs.Unlinked) {p : Path}
    (hup : ".." ∉ p.steps) {cwd loc : Location} {data : List UInt8} {executable : Bool}
    (hreach : fs.reach cwd p = .ok loc) (hfile : fs.entry? loc = some (.file data executable)) :
    p.EndsInStep := by
  unfold reach at hreach
  split at hreach
  · cases hreach
  · have hwalk := (walkTo_eq_ok_iff h mostLinks slash_not_mem_of_mem_pieces
      (up_not_mem_pieces hup) (p.base cwd) loc).mp hreach
    refine (endsInStep_iff p).mpr fun last hlast => ?_
    cases hvoid : Path.isVoid last.toList with
    | false => rfl
    | true =>
        rw [hwalk.2.2 last hlast hvoid] at hfile
        cases hfile

/-! ## Paths of locations -/

theorem toList_pathOf (loc : Location) :
    (pathOf loc).text.toList = '/' :: Text.joinWith '/' (loc.map String.toList) := by
  have hjoin : ∀ names : List String, (String.intercalate "/" names).toList =
      Text.joinWith '/' (names.map String.toList) := by
    intro names
    rw [String.toList_intercalate]
    induction names with
    | nil => rfl
    | cons name names ih =>
        cases names with
        | nil => rw [List.map_singleton, List.intercalate_singleton, Text.joinWith]
        | cons next names =>
            rw [List.map_cons, List.map_cons, List.intercalate_cons_cons, Text.joinWith,
              List.append_assoc]
            · exact congrArg _ (congrArg _ ih)
            · exact List.cons_ne_nil _ _
  rw [pathOf, String.toList_append, hjoin]
  rfl

/-- The path of a location goes through the names that lead there. -/
theorem spells_pathOf {loc : Location} (h : ∀ name ∈ loc, Path.IsStep name) :
    (pathOf loc).Spells loc where
  absolute := by rw [Path.isAbsolute, toList_pathOf]; rfl
  steps_eq := by
    rw [Path.steps, toList_pathOf, Path.stepsOf_cons_slash, Path.stepsOf_joinWith]
    · rw [List.filter_eq_self.mpr, List.map_map]
      · exact (List.map_congr_left fun _ _ => String.ofList_toList).trans (List.map_id loc)
      · rintro _ hpiece
        rcases List.mem_map.mp hpiece with ⟨name, hname, rfl⟩
        rw [(h name hname).2]
        rfl
    · intro _ hpiece
      rcases List.mem_map.mp hpiece with ⟨name, hname, rfl⟩
      exact (h name hname).1

end FileSystem

/-! ## Absolute forms -/

/-- The working directory is a directory, and so is everything above it. -/
structure World.Standing (w : World) : Prop where
  there : w.files.entry? w.cwd = some .dir
  above : w.files.Through [] w.cwd

theorem World.Standing.spells_cwdPath {w : World} (h : w.Standing) : w.cwdPath.Spells w.cwd :=
  FileSystem.spells_pathOf fun name hname => (h.above.isName name hname).1

/-- Where the steps of a path are followed to from the working directory, they can be followed from
    the root. -/
theorem World.Standing.through {w : World} (h : w.Standing) {p : Path}
    (hthrough : w.files.Through (p.base w.cwd) p.steps) :
    w.files.Through [] (p.base w.cwd ++ p.steps) := by
  unfold Path.base at hthrough ⊢
  cases hp : p.isAbsolute with
  | true =>
      rw [hp] at hthrough
      exact hthrough
  | false =>
      rw [hp] at hthrough
      exact (FileSystem.through_append _ _ _ _).mpr ⟨h.above, hthrough⟩

/-- A path spells a location if it is absolute and its steps are the names that lead there. Such a
    path leads to the location if it ends in a step. -/
theorem FileSystem.reach_of_spells {fs : FileSystem} (h : fs.Unlinked) {p : Path} {loc : Location}
    (hp : p.Spells loc) (hend : p.EndsInStep) (hthrough : fs.Through [] loc) (cwd : Location) :
    fs.reach cwd p = .ok loc := by
  have hup : ".." ∉ p.steps := by
    rw [hp.steps_eq]
    exact fun hmem => (hthrough.isName _ hmem).2.1 rfl
  have hbase : p.base cwd = [] := by rw [Path.base, if_pos hp.absolute]
  rw [reach_eq_ok_iff h hup hend, hbase, hp.steps_eq]
  exact ⟨rfl, hthrough⟩

/-- The absolute form of a path that leads to a file spells the location of the file, and leads
    there as well. -/
theorem World.Standing.absoluteFrom_of_file {w : World} (h : w.Standing)
    (hlinks : w.files.Unlinked) {p : Path} (hup : ".." ∉ p.steps) {loc : Location}
    {data : List UInt8} {executable : Bool} (hreach : w.files.reach w.cwd p = .ok loc)
    (hfile : w.files.entry? loc = some (.file data executable)) :
    (Path.absoluteFrom w.cwdPath p).Spells loc ∧ w.files.Through [] loc ∧
      w.files.reach w.cwd (Path.absoluteFrom w.cwdPath p) = .ok loc := by
  have hend := FileSystem.endsInStep_of_reach_file hlinks hup hreach hfile
  rcases (FileSystem.reach_eq_ok_iff hlinks hup hend _ _).mp hreach with ⟨rfl, hthrough⟩
  have hspells := Path.spells_absoluteFrom h.spells_cwdPath p
  have hroot := h.through hthrough
  exact ⟨hspells, hroot,
    FileSystem.reach_of_spells hlinks hspells (hend.absoluteFrom _) hroot _⟩

end BufferFormat
