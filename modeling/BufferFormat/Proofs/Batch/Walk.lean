import BufferFormat.Proofs.Batch.Listing
import BufferFormat.Proofs.FileSystem.Tree
import Mathlib.Data.List.Flatten

/-!
# What a walk finds

A directory that is named on the command line stands for the files of Python below it. The walk that
finds them goes from entry to entry and shows paths, so that what it finds is known only by what the
paths say. To say which files are found, and that none is left out or found twice, the walk is
followed by the names on its way instead. They tell the files apart: no directory has a name twice,
so no way is taken twice, and where no link is on the way, the names are the place of the file.

An extension is what stands behind the last dot of a name, if something stands in front of it. A
name that begins with its only dot has none, and a directory with the name of a module is no file
and is walked like any other.

With that the list is described completely, argument by argument. Only the order in which one
directory is listed is left open, as that is the order in which its entries happen to stand.

## Main definitions

* `IsModuleName`: The name of a file of Python.
* `World.waysBelow`: What a walk finds, by the names on the way.
* `FileSystem.ModuleBelow`: Names that lead to a file of Python.
* `World.Contributes`: What an argument contributes to the list.
* `sourcesWorld`: A world with a directory that has the name of a module.

## Theorems

* `Path.extensionOfName?_eq_some_iff`: What an extension is.
* `isPython_iff`: A path is one of Python's files by its last step.
* `FileSystem.Tree.mem_namesIn`, `FileSystem.Tree.nodup_namesIn`: The names in a directory.
* `World.placesBelow_eq_map`: The walk shows the names on its way.
* `World.pairwise_waysBelow`: No way is taken twice.
* `World.mem_waysBelow_iff`: What is found by way of no link.
* `World.collect_contributions`: The list is what the arguments contribute, in their order.
-/

namespace BufferFormat

/-! ## Names of Python's files -/

/-- A name with something in front of its last dot, and one of Python's extensions behind it. -/
def IsModuleName (name : String) : Prop :=
  ∃ stem extension, stem ≠ "" ∧ (extension = "py" ∨ extension = "pyi") ∧
    name = stem ++ "." ++ extension

namespace Path

theorem extensionOfName?_of_not_mem {cs : List Char} (h : '.' ∉ cs) :
    extensionOfName? cs = none := by
  rw [extensionOfName?, Text.splitAt_of_not_mem h]
  rfl

/-- The last dot separates an extension, unless nothing is in front of it. -/
theorem extensionOfName?_append {stem extension : List Char} (h : '.' ∉ extension) :
    extensionOfName? (stem ++ '.' :: extension) = if stem = [] then none else some extension := by
  have hsplit : (Text.splitAt '.' (stem ++ '.' :: extension)).reverse =
      extension :: (Text.splitAt '.' stem).reverse := by
    rw [Text.splitAt_append, Text.splitAt_of_not_mem h, List.reverse_append, List.reverse_singleton,
      List.singleton_append]
  rw [extensionOfName?, hsplit]
  cases stem with
  | nil => rfl
  | cons c cs =>
      rw [if_neg (List.cons_ne_nil c cs)]
      have hone : Text.splitAt '.' (c :: cs) ≠ [[]] := by
        by_cases hc : c = '.'
        · rw [hc, Text.splitAt_cons_self]
          exact fun heq => Text.splitAt_ne_nil '.' cs (List.cons.inj heq).2
        · rcases Text.splitAt_cons_of_ne hc cs with ⟨piece, pieces, _, hcons⟩
          rw [hcons]
          exact fun heq => List.cons_ne_nil c piece (List.cons.inj heq).1
      cases hrev : (Text.splitAt '.' (c :: cs)).reverse with
      | nil => exact absurd (List.reverse_eq_nil_iff.mp hrev) (Text.splitAt_ne_nil '.' _)
      | cons last before =>
          cases before with
          | cons _ _ => cases last <;> rfl
          | nil =>
              cases last with
              | cons _ _ => rfl
              | nil => exact absurd (List.reverse_eq_iff.mp hrev) hone

theorem extensionOfName?_eq_some_iff (cs extension : List Char) :
    extensionOfName? cs = some extension ↔
      ∃ stem, stem ≠ [] ∧ '.' ∉ extension ∧ cs = stem ++ '.' :: extension := by
  constructor
  · intro h
    by_cases hdot : '.' ∈ cs
    · rcases List.eq_append_cons_of_mem (List.mem_reverse.mpr hdot) with
        ⟨after, before, hcs, hafter⟩
      rw [List.reverse_eq_iff, List.reverse_append, List.reverse_cons, List.append_assoc,
        List.singleton_append] at hcs
      have hnone : '.' ∉ after.reverse := fun hmem => hafter (List.mem_reverse.mp hmem)
      rw [hcs, extensionOfName?_append hnone] at h
      split at h
      · cases h
      · rename_i hstem
        cases h
        exact ⟨before.reverse, hstem, hnone, hcs⟩
    · rw [extensionOfName?_of_not_mem hdot] at h
      cases h
  · rintro ⟨stem, hstem, hnone, rfl⟩
    rw [extensionOfName?_append hnone, if_neg hstem]

/-- The last name of a path is its last step. -/
theorem fileName?_of_steps {p : Path} {before : List String} {name : String}
    (hsteps : p.steps = before ++ [name]) (hup : name ≠ "..") : p.fileName? = some name := by
  rw [fileName?, components_eq, hsteps, List.map_append, List.map_singleton, ← List.append_assoc,
    List.getLast?_concat, stepComponent, if_neg hup]

end Path

/-- A path is one of Python's files by its last step. -/
theorem isPython_iff {p : Path} {before : List String} {name : String}
    (hsteps : p.steps = before ++ [name]) (hup : name ≠ "..") :
    isPython p = true ↔ IsModuleName name := by
  have hextension : ∀ extension, p.extension? = some extension ↔
      ∃ stem, stem ≠ "" ∧ '.' ∉ extension.toList ∧ name = stem ++ "." ++ extension := by
    intro extension
    rw [Path.extension?, Path.fileName?_of_steps hsteps hup, Option.bind_some,
      Option.map_eq_some_iff]
    constructor
    · rintro ⟨cs, hcs, rfl⟩
      rcases (Path.extensionOfName?_eq_some_iff _ _).mp hcs with ⟨stem, hstem, hdot, hname⟩
      refine ⟨String.ofList stem, ?_, ?_, ?_⟩
      · rw [Ne, ← String.toList_inj, String.toList_ofList]
        exact hstem
      · rw [String.toList_ofList]
        exact hdot
      · rw [← String.toList_inj, hname]
        simp only [String.toList_append, String.toList_ofList, List.append_assoc]
        rfl
    · rintro ⟨stem, hstem, hdot, rfl⟩
      refine ⟨extension.toList, (Path.extensionOfName?_eq_some_iff _ _).mpr
        ⟨stem.toList, fun h => hstem (String.toList_eq_nil_iff.mp h), hdot, ?_⟩,
        String.ofList_toList⟩
      rw [String.toList_append, String.toList_append, List.append_assoc]
      rfl
  have hpython : isPython p = true ↔
      ∃ extension, p.extension? = some extension ∧ (extension = "py" ∨ extension = "pyi") := by
    unfold isPython
    cases p.extension? with
    | none => simp only [Bool.false_eq_true, reduceCtorEq, false_and, exists_false]
    | some extension =>
        simp only [pythonExtensions, List.contains_iff_mem, List.mem_cons, List.not_mem_nil,
          or_false, Option.some.injEq, exists_eq_left']
  rw [hpython, IsModuleName]
  simp only [hextension]
  constructor
  · rintro ⟨extension, ⟨stem, hstem, _, hname⟩, hpy⟩
    exact ⟨stem, extension, hstem, hpy, hname⟩
  · rintro ⟨stem, extension, hstem, hpy, hname⟩
    refine ⟨extension, ⟨stem, hstem, ?_, hname⟩, hpy⟩
    rcases hpy with rfl | rfl <;> decide

/-- A name alone is one step. -/
theorem isPython_name {name : String} (hname : FileSystem.IsName name) :
    isPython ⟨name⟩ = true ↔ IsModuleName name :=
  isPython_iff (show Path.steps ⟨name⟩ = [] ++ [name] from Path.steps_of_isStep hname.1) hname.2.1

/-! ## Names in a directory -/

namespace FileSystem.Tree

variable {fs : FileSystem} {loc : Location}

/-- A directory has a name for each entry that stands in it. -/
theorem mem_namesIn (h : fs.Tree) (name : String) :
    name ∈ fs.namesIn loc ↔ ∃ e, fs.entry? (loc ++ [name]) = some e := by
  have hnames : fs.namesIn loc = fs.entries.filterMap (World.nameIn loc) := rfl
  rw [hnames, List.mem_filterMap]
  constructor
  · rintro ⟨⟨l, e⟩, hmem, hname⟩
    refine ⟨e, (h.entry?_eq_some_iff (List.concat_ne_nil name loc)).mpr ?_⟩
    rw [World.append_of_nameIn hname]
    exact hmem
  · rintro ⟨e, he⟩
    refine ⟨_, (h.entry?_eq_some_iff (List.concat_ne_nil name loc)).mp he, ?_⟩
    simp only [World.nameIn, List.getLast?_concat, List.dropLast_concat, if_true]

/-- A directory has no name twice. -/
theorem nodup_namesIn (h : fs.Tree) : (fs.namesIn loc).Nodup := by
  have hnames : fs.namesIn loc = fs.entries.filterMap (World.nameIn loc) := rfl
  rw [hnames, List.Nodup, List.pairwise_filterMap]
  refine (List.pairwise_map.mp h.distinct).imp fun hne name hname other hother heq => hne ?_
  rw [← World.append_of_nameIn hname, ← World.append_of_nameIn hother, heq]

end FileSystem.Tree

/-! ## Ways -/

namespace World

/-- What one name of a directory stands for, by the names on the way. -/
def waysAt (w : World) (next : List Location → Location → List (List String × Location))
    (above : List Location) (loc : Location) (name : String) : List (List String × Location) :=
  match w.files.resolve loc ⟨name⟩ with
  | .ok (below, .file ..) => if isPython ⟨name⟩ then [([name], below)] else []
  | .ok (below, .dir) =>
    if w.isLink loc name && (loc :: above).contains below then []
    else (next (loc :: above) below).map fun way => (name :: way.1, way.2)
  | _ => []

/-- Python's files below a directory, by the names on the way, with their places. -/
def waysBelow (w : World) : Nat → List Location → Location → List (List String × Location)
  | 0, _, _ => []
  | depth + 1, above, loc =>
    (w.files.namesIn loc).flatMap (w.waysAt (waysBelow w depth) above loc)

variable {w : World}

theorem isPython_join {name : String} (hname : FileSystem.IsName name) (dir : Path) :
    isPython (dir.join ⟨name⟩) = isPython ⟨name⟩ := by
  have hjoin : (dir.join ⟨name⟩).steps = dir.steps ++ [name] := by
    rw [Path.steps_join (Path.isAbsolute_of_isStep hname.1), Path.steps_of_isStep hname.1]
  rw [Bool.eq_iff_iff, isPython_iff hjoin hname.2.1, isPython_name hname]

/-- The paths that a walk shows go down by the names on the way. -/
theorem placesBelow_eq_map (h : w.files.Tree) (depth : Nat) :
    ∀ (above : List Location) (loc : Location) (dir : Path),
      w.placesBelow depth above loc dir =
        (w.waysBelow depth above loc).map fun way => (dir.below way.1, way.2) := by
  induction depth with
  | zero => exact fun _ _ _ => rfl
  | succ depth ih =>
      intro above loc dir
      rw [placesBelow, waysBelow, List.map_flatMap]
      refine List.flatMap_congr fun name hname => ?_
      rcases (h.mem_namesIn name).mp hname with ⟨_, he⟩
      have hpython := isPython_join (h.dir_of_entry? he).2 dir
      unfold placesAt waysAt
      rw [hpython]
      rcases w.files.resolve loc ⟨name⟩ with _ | ⟨below, e⟩
      · rfl
      · cases e with
        | file data executable =>
            simp only
            split <;> rfl
        | dir =>
            simp only
            split
            · rfl
            · rw [ih, List.map_map]
              rfl
        | link target => rfl

/-- What a name stands for is reached by way of that name. -/
theorem head_of_mem_waysAt
    {next : List Location → Location → List (List String × Location)} {above : List Location}
    {loc : Location} {name : String} {way : List String × Location}
    (h : way ∈ w.waysAt next above loc name) : ∃ rest, way.1 = name :: rest := by
  unfold waysAt at h
  split at h
  · split at h
    · rw [List.mem_singleton.mp h]
      exact ⟨[], rfl⟩
    · cases h
  · split at h
    · cases h
    · rcases List.mem_map.mp h with ⟨way, _, rfl⟩
      exact ⟨way.1, rfl⟩
  · cases h

/-- No way is taken twice. -/
theorem pairwise_waysBelow (h : w.files.Tree) (depth : Nat) :
    ∀ (above : List Location) (loc : Location),
      (w.waysBelow depth above loc).Pairwise fun way other => way.1 ≠ other.1 := by
  induction depth with
  | zero => exact fun _ _ => .nil
  | succ depth ih =>
      intro above loc
      rw [waysBelow, List.pairwise_flatMap]
      constructor
      · -- By way of one name, the ways go on differently below it.
        intro name _
        unfold waysAt
        split
        · split
          · exact List.pairwise_singleton _ _
          · exact .nil
        · split
          · exact .nil
          · rw [List.pairwise_map]
            exact (ih _ _).imp fun hne heq => hne (List.cons.inj heq).2
        · exact .nil
      · -- The ways by different names begin differently.
        refine h.nodup_namesIn.imp fun hne way hway other hother heq => hne ?_
        rcases head_of_mem_waysAt hway with ⟨rest, hrest⟩
        rcases head_of_mem_waysAt hother with ⟨rest', hrest'⟩
        rw [hrest, hrest'] at heq
        exact (List.cons.inj heq).1

end World

namespace FileSystem

/-- Names that lead to one of Python's files, at most `depth` levels below a directory. -/
def ModuleBelow (fs : FileSystem) (depth : Nat) (loc : Location) (names : List String) : Prop :=
  names.length ≤ depth ∧
    (∃ data executable, fs.entry? (loc ++ names) = some (.file data executable)) ∧
      ∃ name ∈ names.getLast?, IsModuleName name

section ModuleBelow

variable {fs : FileSystem} {depth : Nat} {loc : Location} {name : String} {names : List String}

/-- A file is the end of the way. -/
theorem moduleBelow_of_file (h : fs.Tree) {data : List UInt8} {executable : Bool}
    (he : fs.entry? (loc ++ [name]) = some (.file data executable)) :
    fs.ModuleBelow (depth + 1) loc (name :: names) ↔ names = [] ∧ IsModuleName name := by
  constructor
  · rintro ⟨_, ⟨_, _, hfile⟩, last, hlast, hmodule⟩
    have hthrough := (h.through_of_append hfile).2.2
    cases names with
    | nil =>
        cases hlast
        exact ⟨rfl, hmodule⟩
    | cons next names =>
        rw [hthrough.1] at he
        cases he
  · rintro ⟨rfl, hmodule⟩
    exact ⟨Nat.le_add_left 1 depth, ⟨_, _, he⟩, name, rfl, hmodule⟩

/-- Behind a directory the way goes on. -/
theorem moduleBelow_of_dir (he : fs.entry? (loc ++ [name]) = some .dir) :
    fs.ModuleBelow (depth + 1) loc (name :: names) ↔
      fs.ModuleBelow depth (loc ++ [name]) names := by
  rw [ModuleBelow, ModuleBelow, List.append_assoc, List.singleton_append, List.length_cons,
    Nat.add_le_add_iff_right]
  cases names with
  | nil =>
      refine iff_of_false ?_ ?_
      · rintro ⟨_, ⟨_, _, hfile⟩, _⟩
        rw [he] at hfile
        cases hfile
      · rintro ⟨_, _, _, hlast, _⟩
        cases hlast
  | cons next names => rw [List.getLast?_cons_cons]

end ModuleBelow

end FileSystem

namespace World

variable {w : World}

section Ways

variable {next : List Location → Location → List (List String × Location)} {depth : Nat}
  {above : List Location} {loc l : Location} {name : String} {names : List String}

/-- No way ends where it begins. -/
theorem nil_not_mem_waysBelow : ([], l) ∉ w.waysBelow depth above loc := by
  cases depth with
  | zero => exact List.not_mem_nil
  | succ depth =>
      rw [waysBelow, List.mem_flatMap]
      rintro ⟨name, _, hway⟩
      rcases head_of_mem_waysAt hway with ⟨rest, hrest⟩
      cases hrest

/-- A way begins with the name of an entry, and goes on as that name does. -/
theorem cons_mem_waysBelow_iff (h : w.files.Tree) :
    (name :: names, l) ∈ w.waysBelow (depth + 1) above loc ↔
      (∃ e, w.files.entry? (loc ++ [name]) = some e) ∧
        (name :: names, l) ∈ w.waysAt (w.waysBelow depth) above loc name := by
  rw [waysBelow, List.mem_flatMap]
  constructor
  · rintro ⟨other, hother, hway⟩
    rcases head_of_mem_waysAt hway with ⟨rest, heq⟩
    obtain rfl := (List.cons.inj heq).1
    exact ⟨(h.mem_namesIn name).mp hother, hway⟩
  · rintro ⟨he, hway⟩
    exact ⟨name, (h.mem_namesIn name).mpr he, hway⟩

/-- The name of a file leads there, if it is one of Python's, and no further. -/
theorem cons_mem_waysAt_of_file (hdir : w.files.entry? loc = some .dir)
    (hname : FileSystem.IsName name) {data : List UInt8} {executable : Bool}
    (he : w.files.entry? (loc ++ [name]) = some (.file data executable)) :
    (name :: names, l) ∈ w.waysAt next above loc name ↔
      l = loc ++ [name] ∧ names = [] ∧ IsModuleName name := by
  rw [waysAt, FileSystem.resolve_name hdir hname he nofun, ← isPython_name hname]
  simp only
  split
  · rename_i hpython
    rw [List.mem_singleton, Prod.mk.injEq, List.cons.injEq, hpython]
    tauto
  · rename_i hpython
    refine iff_of_false List.not_mem_nil ?_
    rintro ⟨_, _, h⟩
    exact hpython h

/-- Behind the name of a directory a way goes on. -/
theorem cons_mem_waysAt_of_dir (hdir : w.files.entry? loc = some .dir)
    (hname : FileSystem.IsName name) (he : w.files.entry? (loc ++ [name]) = some .dir) :
    (name :: names, l) ∈ w.waysAt next above loc name ↔
      (names, l) ∈ next (loc :: above) (loc ++ [name]) := by
  have hstay : w.isLink loc name = false := by rw [isLink, he]
  rw [waysAt, FileSystem.resolve_name hdir hname he nofun]
  simp only [hstay, Bool.false_and, Bool.false_eq_true, if_false, List.mem_map, Prod.mk.injEq,
    List.cons.injEq, true_and]
  constructor
  · rintro ⟨_, hway, rfl, rfl⟩
    exact hway
  · exact fun hway => ⟨_, hway, rfl, rfl⟩

end Ways

/-- Where no link is on the way, a walk finds exactly Python's files in the places to which the
    names lead. -/
theorem mem_waysBelow_iff (h : w.files.Tree) (depth : Nat) :
    ∀ (above : List Location) {loc : Location} {names : List String} (l : Location),
      ¬w.files.LinkOn loc names →
      ((names, l) ∈ w.waysBelow depth above loc ↔
        l = loc ++ names ∧ w.files.ModuleBelow depth loc names) := by
  induction depth with
  | zero =>
      intro above loc names l _
      refine iff_of_false List.not_mem_nil ?_
      rintro ⟨_, hlength, _, name, hlast, _⟩
      rw [List.length_eq_zero_iff.mp (Nat.le_zero.mp hlength)] at hlast
      cases hlast
  | succ depth ih =>
      intro above loc names l hplain
      cases names with
      | nil =>
          refine iff_of_false nil_not_mem_waysBelow ?_
          rintro ⟨_, _, _, name, hlast, _⟩
          cases hlast
      | cons name names =>
          rcases FileSystem.not_linkOn_cons hplain with ⟨hlink, hrest⟩
          rw [cons_mem_waysBelow_iff h]
          cases hentry : w.files.entry? (loc ++ [name]) with
          | none =>
              refine iff_of_false (fun hway => ?_) (fun hmodule => ?_)
              · rcases hway.1 with ⟨_, he⟩
                cases he
              · rcases hmodule.2.2.1 with ⟨_, _, hfile⟩
                rcases h.exists_entry?_cons hfile with ⟨e, he⟩
                rw [hentry] at he
                cases he
          | some e =>
              rcases h.dir_of_entry? hentry with ⟨hdir, hname⟩
              rw [and_iff_right ⟨e, rfl⟩]
              cases e with
              | link target => exact absurd hentry (hlink target)
              | file data executable =>
                  -- The way ends there.
                  rw [cons_mem_waysAt_of_file hdir hname hentry,
                    FileSystem.moduleBelow_of_file h hentry]
                  constructor
                  · rintro ⟨rfl, rfl, hmodule⟩
                    exact ⟨rfl, rfl, hmodule⟩
                  · rintro ⟨rfl, rfl, hmodule⟩
                    exact ⟨rfl, rfl, hmodule⟩
              | dir =>
                  rw [cons_mem_waysAt_of_dir hdir hname hentry,
                    FileSystem.moduleBelow_of_dir hentry, ih _ _ hrest, List.append_assoc,
                    List.singleton_append]

/-- The files of a directory are shown by the names on the way to them. -/
theorem filesBelow_eq_below (h : w.files.Tree) (depth : Nat) (above : List Location)
    (loc : Location) (dir : Path) :
    w.filesBelow depth above loc dir =
      ((w.waysBelow depth above loc).map Prod.fst).map dir.below := by
  rw [filesBelow_eq_map, placesBelow_eq_map h, List.map_map, List.map_map]
  rfl

/-! ## What the arguments contribute -/

/-- What an argument contributes: itself if it is a file, each of Python's files below it once if it
    is a directory, and nothing if it is neither. -/
structure Contributes (w : World) (depth : Nat) (input : Path) (part : List Path) : Prop where
  of_file : w.isFile input = true → part = [input]
  of_dir : ∀ loc, w.files.resolve w.cwd input = .ok (loc, .dir) →
    ∃ found : List (List String), part = found.map input.below ∧ found.Nodup ∧
      (∀ names, names ∈ found ↔ w.files.ModuleBelow depth loc names) ∧
      ∀ names ∈ found, w.files.reach w.cwd (input.below names) = .ok (loc ++ names)
  of_neither : w.isFile input = false → w.isDir input = false → part = []

/-- What is found below a directory: the names that lead to Python's files, each once, and the paths
    that lead there. -/
theorem exists_found (h : w.files.Tree) (hlinks : w.files.Unlinked) (depth : Nat) {input : Path}
    {loc : Location} (hreach : w.files.reach w.cwd input = .ok loc) :
    ∃ found : List (List String), w.filesBelow depth [] loc input = found.map input.below ∧
      found.Nodup ∧ (∀ names, names ∈ found ↔ w.files.ModuleBelow depth loc names) ∧
      ∀ names ∈ found, w.files.reach w.cwd (input.below names) = .ok (loc ++ names) := by
  have hway := fun names l => mem_waysBelow_iff h depth [] l (hlinks.not_linkOn loc names)
  have hmem : ∀ names, names ∈ (w.waysBelow depth [] loc).map Prod.fst ↔
      w.files.ModuleBelow depth loc names := by
    intro names
    rw [List.mem_map]
    constructor
    · rintro ⟨⟨_, l⟩, hmem, rfl⟩
      exact ((hway _ l).mp hmem).2
    · exact fun hmodule => ⟨_, (hway names _).mpr ⟨rfl, hmodule⟩, rfl⟩
  refine ⟨_, filesBelow_eq_below h depth [] loc input,
    List.pairwise_map.mpr (pairwise_waysBelow h depth [] loc), hmem, fun names hnames => ?_⟩
  rcases ((hmem names).mp hnames).2.1 with ⟨data, executable, hfile⟩
  exact h.reach_below hreach hfile (hlinks.not_linkOn loc names)

theorem contributes_filesOf? (h : w.files.Tree) (hlinks : w.files.Unlinked) (depth : Nat)
    (input : Path) : w.Contributes depth input ((w.filesOf? depth input).getD []) where
  of_file hfile := by
    rcases (FileSystem.isFile_iff _ _ _).mp hfile with ⟨loc, data, executable, hfound⟩
    rw [filesOf?, (FileSystem.resolve_eq_ok_iff _ _ _ _ _).mpr hfound]
    rfl
  of_dir loc hdir := by
    rw [filesOf?, hdir]
    exact exists_found h hlinks depth ((FileSystem.resolve_eq_ok_iff _ _ _ _ _).mp hdir).1
  of_neither hfile hdir := by
    unfold filesOf?
    split
    · rename_i hresolve
      rw [isFile, FileSystem.isFile, hresolve] at hfile
      cases hfile
    · rename_i hresolve
      rw [isDir, FileSystem.isDir, hresolve] at hdir
      cases hdir
    · rfl

/-- In a tree without links, the files that a command line names are what its arguments contribute,
    in their order. A directory contributes Python's files at depth one, or at any depth up to 256
    if the command line asks for it, and each of them once. -/
theorem collect_contributions (h : w.files.Tree) (hlinks : w.files.Unlinked) (line : CommandLine) :
    ∃ parts : List (List Path), w.collect line = parts.flatten ∧
      List.Forall₂ (w.Contributes (if line.recursive then 256 else 1)) line.inputs parts := by
  refine ⟨line.inputs.map fun input => (w.filesOf? line.walkDepth input).getD [], ?_, ?_⟩
  · rw [collect, List.flatMap_def]
  · rw [List.forall₂_map_right_iff, List.forall₂_same]
    exact fun input _ => contributes_filesOf? h hlinks _ input

end World

/-! ## A directory with the name of a module -/

/-- A world with a directory that has the name of a module, and names with no extension. -/
def sourcesWorld : World where
  files := ⟨[(["d"], .dir), (["d", "m.py"], .file [] false), (["d", ".py"], .file [] false),
    (["d", "pkg.py"], .dir), (["d", "pkg.py", "n.pyi"], .file [] false),
    (["x.txt"], .file [] false)]⟩
  cwd := []
  env := .empty
  programs := fun _ => none

/-- A walk finds what is inside of such a directory, and a file that is named is taken whatever its
    extension is. -/
theorem collect_contributions_nested :
    (sourcesWorld.files.Tree ∧ sourcesWorld.files.Unlinked) ∧
      ⟨"d/pkg.py/n.pyi"⟩ ∈ sourcesWorld.collect
        { inputs := [⟨"d"⟩, ⟨"gone"⟩, ⟨"x.txt"⟩], recursive := true } ∧
      ⟨"x.txt"⟩ ∈ sourcesWorld.collect
        { inputs := [⟨"d"⟩, ⟨"gone"⟩, ⟨"x.txt"⟩], recursive := true } := by
  have htree : sourcesWorld.files.Tree := by decide
  have hlinks : sourcesWorld.files.Unlinked := by decide
  have hreach : ∀ (p : Path) (loc : Location), ¬p.text.isEmpty = true →
      sourcesWorld.files.follow (p.base []) (FileSystem.pieces p) = some loc →
      sourcesWorld.files.reach [] p = .ok loc :=
    fun p loc hp => (FileSystem.reach_eq_ok_iff_follow hlinks hp loc).mpr
  have hdir : sourcesWorld.files.resolve [] ⟨"d"⟩ = .ok (["d"], .dir) :=
    (FileSystem.resolve_eq_ok_iff _ _ _ _ _).mpr ⟨hreach _ _ (by decide) rfl, rfl⟩
  have hfile : sourcesWorld.isFile ⟨"x.txt"⟩ = true :=
    (FileSystem.isFile_iff _ _ _).mpr ⟨["x.txt"], [], false, hreach _ _ (by decide) rfl, rfl⟩
  rcases World.collect_contributions htree hlinks
    { inputs := [⟨"d"⟩, ⟨"gone"⟩, ⟨"x.txt"⟩], recursive := true } with ⟨parts, hcollect, hparts⟩
  cases hparts with
  | cons hd hrest =>
      cases hrest with
      | cons _ hrest =>
          cases hrest with
          | cons hx hrest =>
              rcases hd.of_dir _ hdir with ⟨found, rfl, _, hfound, _⟩
              have hmem : ["pkg.py", "n.pyi"] ∈ found := (hfound _).mpr
                ⟨by decide, ⟨[], false, rfl⟩, "n.pyi", rfl, "n", "pyi", by decide, Or.inr rfl, rfl⟩
              refine ⟨⟨htree, hlinks⟩, ?_, ?_⟩
              · rw [hcollect, List.flatten_cons]
                exact List.mem_append_left _ (List.mem_map.mpr ⟨_, hmem, rfl⟩)
              · rw [hcollect, hx.of_file hfile]
                simp only [List.flatten_cons, List.mem_append, List.mem_singleton, true_or, or_true]

end BufferFormat
