import BufferFormat.Proofs.FileSystem.Spelling

/-!
# Trees of files

A file system is a list of entries, and not every list is one that a disk could hold. On a disk each
entry stands in a directory, under a name that a directory can hold, and no two entries stand in one
place. `Tree` says so. In a tree the names that lead from a directory to an entry lead through
directories only, so an entry is found by following its names, and by no other names.

Going down by names is also how paths are made while a directory is walked. `Path.below` is the path
that such a walk shows: it begins as the directory was spelled, however that was, and goes on with
the names. It leads where the names lead, unless a link stands on the way.

## Main definitions

* `FileSystem.Tree`: A file system that a disk could hold.
* `FileSystem.LinkOn`: A link on the way that some names lead.
* `Path.below`: The path that goes down from a directory by names.

## Theorems

* `FileSystem.Tree.entry?_eq_some_iff`: What stands at a location is the one entry for it.
* `FileSystem.Tree.through`: An entry is reached through directories.
* `FileSystem.resolve_name`: A name leads to the entry of that name.
* `FileSystem.walkTo_append_cases`: A walk in two parts.
* `FileSystem.Tree.reach_below`: A path that goes down by names leads where the names lead.
-/

namespace BufferFormat

namespace FileSystem

/-- A file system that a disk could hold: entries have names, no two are in one place, and each is
    inside a directory. -/
structure Tree (fs : FileSystem) : Prop where
  named : ∀ e ∈ fs.entries, e.1 ≠ [] ∧ ∀ name ∈ e.1, IsName name
  distinct : (fs.entries.map Prod.fst).Nodup
  inside : ∀ e ∈ fs.entries, fs.entry? e.1.dropLast = some .dir

instance (fs : FileSystem) : Decidable fs.Tree :=
  decidable_of_iff (_ ∧ _ ∧ _) ⟨fun h => ⟨h.1, h.2.1, h.2.2⟩, fun h => ⟨h.1, h.2, h.3⟩⟩

namespace Tree

variable {fs : FileSystem} {loc : Location} {name : String} {names : List String} {e : Entry}

/-- What stands below the root is the one entry for its location. -/
theorem entry?_eq_some_iff (h : fs.Tree) (hloc : loc ≠ []) :
    fs.entry? loc = some e ↔ (loc, e) ∈ fs.entries := by
  rw [ entry?, if_neg hloc, List.lookup_eq_some_iff]
  constructor
  · rintro ⟨before, after, hentries, _⟩
    rw [hentries]
    exact List.mem_append_right before List.mem_cons_self
  · intro hmem
    rcases List.append_of_mem hmem with ⟨before, after, hentries⟩
    refine ⟨before, after, hentries, fun other hother => ?_⟩
    -- An earlier entry for the location would be a second one.
    have hdistinct := h.distinct
    rw [hentries, List.map_append, List.nodup_append] at hdistinct
    rw [bne_iff_ne]
    exact (hdistinct.2.2 _ (List.mem_map_of_mem hother) _ List.mem_cons_self).symm

/-- An entry has a name and stands in a directory. -/
theorem dir_of_entry? (h : fs.Tree) (he : fs.entry? (loc ++ [name]) = some e) :
    fs.entry? loc = some .dir ∧ IsName name := by
  have hmem := (h.entry?_eq_some_iff (List.concat_ne_nil name loc)).mp he
  have hinside := h.inside _ hmem
  rw [List.dropLast_concat] at hinside
  exact ⟨hinside, (h.named _ hmem).2 name (List.mem_append_right loc List.mem_cons_self)⟩

/-- An entry is reached from the root through directories. -/
theorem through (h : fs.Tree) (he : fs.entry? loc = some e) : fs.Through [] loc := by
  induction loc using List.reverseRecOn generalizing e with
  | nil => trivial
  | append_singleton loc name ih =>
      rcases h.dir_of_entry? he with ⟨hdir, hname⟩
      rw [through_append, List.nil_append]
      exact ⟨ih hdir, hdir, hname, trivial⟩

/-- An entry is reached from every location above it through directories. -/
theorem through_of_append (h : fs.Tree) (he : fs.entry? (loc ++ names) = some e) :
    fs.Through loc names := by
  have hthrough := h.through he
  rw [through_append, List.nil_append] at hthrough
  exact hthrough.2

/-- The first name on the way to an entry stands for something. -/
theorem exists_entry?_cons (h : fs.Tree) (he : fs.entry? (loc ++ name :: names) = some e) :
    ∃ next, fs.entry? (loc ++ [name]) = some next := by
  have hthrough := (h.through_of_append he).2.2
  cases names with
  | nil => exact ⟨e, he⟩
  | cons other names => exact ⟨_, hthrough.1⟩

end Tree

/-! ## Following names -/

/-- A walk does not stay where it is for a name, ... -/
theorem IsName.not_stay {name : String} (h : IsName name) :
    ¬(name.isEmpty || name == ".") = true := by
  rw [← isVoid_toList, h.1.2]
  exact Bool.false_ne_true

/-- ... it does not go up, ... -/
theorem IsName.not_up {name : String} (h : IsName name) : ¬(name == "..") = true :=
  fun hup => h.2.1 (beq_iff_eq.mp hup)

/-- ... and it is not stopped. -/
theorem IsName.not_long {name : String} (h : IsName name) : ¬longestName < name.utf8ByteSize :=
  Nat.not_lt.mpr h.2.2

/-- A name alone is one piece of a walk. -/
theorem reach_name (fs : FileSystem) (loc : Location) {name : String} (hname : IsName name) :
    fs.reach loc ⟨name⟩ = fs.walkTo mostLinks loc [name] := by
  have hempty : ¬name.isEmpty = true := fun h => hname.not_stay (by rw [h]; rfl)
  have hpieces : pieces ⟨name⟩ = [name] := by
    rw [pieces, Text.splitAt_of_not_mem hname.1.1, List.map_singleton, String.ofList_toList]
  rw [reach, if_neg hempty, Path.isAbsolute_of_isStep hname.1, if_neg Bool.false_ne_true, hpieces]

/-- A walk takes the name of an entry, unless that is a link. -/
theorem walkTo_name {fs : FileSystem} (links : Nat) {loc : Location} {name : String} {e : Entry}
    (hdir : fs.entry? loc = some .dir) (hname : IsName name)
    (he : fs.entry? (loc ++ [name]) = some e) (hlink : ∀ target, e ≠ .link target) :
    fs.walkTo links loc [name] = .ok (loc ++ [name]) := by
  rw [walkTo_enter fs links loc name [] hdir hname.not_stay hname.not_up hname.not_long hlink he,
    walkTo]

/-- A name leads to the entry of that name, unless that is a link. -/
theorem resolve_name {fs : FileSystem} {loc : Location} {name : String} {e : Entry}
    (hdir : fs.entry? loc = some .dir) (hname : IsName name)
    (he : fs.entry? (loc ++ [name]) = some e) (hlink : ∀ target, e ≠ .link target) :
    fs.resolve loc ⟨name⟩ = .ok (loc ++ [name], e) :=
  (resolve_eq_ok_iff _ _ _ _ _).mpr
    ⟨(reach_name fs loc hname).trans (walkTo_name mostLinks hdir hname he hlink), he⟩

/-- A walk can be made in two parts. The first part ends somewhere, and the second one goes on from
    there with as many links as are left. Otherwise the first part fails or ends where nothing is,
    and there is no second one. -/
theorem walkTo_append_cases (fs : FileSystem) (links : Nat) (l : Location) (rest : List String) :
    (∃ m left, fs.walkTo links l rest = .ok m ∧
        ∀ others, fs.walkTo links l (rest ++ others) = fs.walkTo left m others) ∨
      (∀ m, fs.walkTo links l rest = .ok m → fs.entry? m = none) ∧
        ∀ next others, ∃ e, fs.walkTo links l (rest ++ next :: others) = .error e := by
  fun_induction fs.walkTo links l rest with
  | case1 links l => exact Or.inl ⟨l, links, rfl, fun _ => rfl⟩
  | case2 links l piece rest hdir hstay ih =>
      simp only [List.cons_append, walkTo, hdir, if_pos hstay]
      exact ih
  | case3 links l piece rest hdir hstay hup ih =>
      simp only [List.cons_append, walkTo, hdir, if_neg hstay, if_pos hup]
      exact ih
  | case4 links l piece rest hdir hstay hup hlong =>
      simp only [List.cons_append, walkTo, hdir, if_neg hstay, if_neg hup, if_pos hlong]
      exact Or.inr ⟨by rintro _ ⟨⟩, fun _ _ => ⟨_, rfl⟩⟩
  | case5 l piece rest hdir hstay hup hlong target hlink =>
      simp only [List.cons_append, walkTo, hdir, if_neg hstay, if_neg hup, if_neg hlong, hlink]
      exact Or.inr ⟨by rintro _ ⟨⟩, fun _ _ => ⟨_, rfl⟩⟩
  | case6 l piece rest hdir hstay hup hlong target hlink links htarget =>
      simp only [List.cons_append, walkTo, hdir, if_neg hstay, if_neg hup, if_neg hlong, hlink,
        if_pos htarget]
      exact Or.inr ⟨by rintro _ ⟨⟩, fun _ _ => ⟨_, rfl⟩⟩
  | case7 l piece rest hdir hstay hup hlong target hlink links htarget ih =>
      simp only [List.cons_append, walkTo, hdir, if_neg hstay, if_neg hup, if_neg hlong, hlink,
        if_neg htarget, ← List.append_assoc]
      exact ih
  | case8 links l piece rest hdir hstay hup hlong e hlink he ih =>
      simp only [List.cons_append,
        walkTo_enter fs links l piece _ hdir hstay hup hlong hlink he]
      exact ih
  | case9 links l piece rest hdir hstay hup hlong hnone hrest =>
      -- What does not exist can only be the end.
      refine Or.inr ⟨fun m hm => ?_, fun next others => ⟨.notFound, ?_⟩⟩
      · rw [← Except.ok.inj hm]
        exact hnone
      · rw [List.isEmpty_iff.mp hrest, List.cons_append, walkTo, hdir]
        simp only [if_neg hstay, if_neg hup, if_neg hlong, hnone]
        rfl
  | case10 links l piece rest hdir hstay hup hlong hnone hrest =>
      refine Or.inr ⟨by rintro _ ⟨⟩, fun next others => ⟨.notFound, ?_⟩⟩
      rw [List.cons_append, walkTo, hdir]
      simp only [if_neg hstay, if_neg hup, if_neg hlong, hnone]
      rw [if_neg]
      exact fun hempty => List.append_ne_nil_of_right_ne_nil _ (List.cons_ne_nil _ _)
        (List.isEmpty_iff.mp hempty)
  | case11 links l piece rest e hdir he =>
      refine Or.inr ⟨by rintro _ ⟨⟩, fun next others => ?_⟩
      exact fs.walkTo_of_not_dir links (by rw [he]; exact fun h => hdir (Option.some.inj h)) _ _
  | case12 links l piece rest hnone =>
      refine Or.inr ⟨by rintro _ ⟨⟩, fun next others => ?_⟩
      exact fs.walkTo_of_not_dir links (by rw [hnone]; exact (Option.some_ne_none _).symm) _ _

/-- A walk to a directory can go on from there, whether or not an empty piece ended it. -/
theorem exists_walkTo_concat {fs : FileSystem} {links : Nat} {l loc : Location}
    {rest before : List String} (hwalk : fs.walkTo links l rest = .ok loc)
    (hdir : fs.entry? loc = some .dir) (hrest : rest = before ∨ rest = before ++ [""])
    (piece : String) :
    ∃ left, fs.walkTo links l (before ++ [piece]) = fs.walkTo left loc [piece] := by
  rcases walkTo_append_cases fs links l before with ⟨m, left, hm, hothers⟩ | ⟨hnone, herror⟩
  · refine ⟨left, ?_⟩
    rw [hothers]
    rcases hrest with rfl | rfl
    · rw [Except.ok.inj (hm.symm.trans hwalk)]
    · -- The empty piece stays where the walk is.
      rw [hothers, walkTo] at hwalk
      split at hwalk
      · rw [if_pos (show ("".isEmpty || "" == ".") = true from rfl), walkTo] at hwalk
        rw [Except.ok.inj hwalk]
      · cases hwalk
      · cases hwalk
  · rcases hrest with rfl | rfl
    · rw [hnone loc hwalk] at hdir
      cases hdir
    · rcases herror "" [] with ⟨err, herr⟩
      rw [herr] at hwalk
      cases hwalk

/-- The pieces of a path inside another one are those of both. A separator at the end of the first
    path is no piece of its own then. -/
theorem pieces_join {p : Path} (hp : ¬p.text.isEmpty = true) {name : String}
    (hname : Path.IsStep name) :
    ∃ before, pieces (p.join ⟨name⟩) = before ++ [name] ∧
      (pieces p = before ∨ pieces p = before ++ [""]) := by
  have hone : (Text.splitAt '/' name.toList).map String.ofList = [name] := by
    rw [Text.splitAt_of_not_mem hname.1, List.map_singleton, String.ofList_toList]
  unfold Path.join
  rw [Path.isAbsolute_of_isStep hname, Bool.false_or, if_neg hp]
  split
  · rename_i hslash
    rcases List.getLast?_eq_some_iff.mp (beq_iff_eq.mp hslash) with ⟨start, hstart⟩
    refine ⟨(Text.splitAt '/' start).map String.ofList, ?_, Or.inr ?_⟩
    · rw [pieces, String.toList_append, hstart, List.append_assoc, List.singleton_append,
        Text.splitAt_append, List.map_append, hone]
    · rw [pieces, hstart, Text.splitAt_append, List.map_append]
      rfl
  · refine ⟨pieces p, ?_, Or.inl rfl⟩
    rw [pieces, pieces, String.toList_append, String.toList_append, List.append_assoc, ← hone,
      ← List.map_append]
    exact congrArg _ (Text.splitAt_append _ _ _)

/-- A name inside a path to a directory leads to the entry of that name, unless that is a link. -/
theorem reach_join {fs : FileSystem} {cwd loc : Location} {p : Path} {name : String} {e : Entry}
    (hreach : fs.reach cwd p = .ok loc) (hdir : fs.entry? loc = some .dir) (hname : IsName name)
    (he : fs.entry? (loc ++ [name]) = some e) (hlink : ∀ target, e ≠ .link target) :
    fs.reach cwd (p.join ⟨name⟩) = .ok (loc ++ [name]) := by
  have hp : ¬p.text.isEmpty = true := by
    intro hempty
    rw [reach, if_pos hempty] at hreach
    cases hreach
  rcases pieces_join hp hname.1 with ⟨before, hjoin, hpieces⟩
  have hjoined : ¬(p.join ⟨name⟩).text.isEmpty = true := by
    intro hempty
    rw [pieces, String.isEmpty_iff.mp hempty] at hjoin
    have hlast := congrArg List.getLast? hjoin
    rw [List.getLast?_concat] at hlast
    rw [← Option.some.inj hlast] at hname
    exact absurd hname (by decide)
  rw [reach, if_neg hp] at hreach
  rw [reach, if_neg hjoined, hjoin, Path.isAbsolute_join (Path.isAbsolute_of_isStep hname.1)]
  generalize (if p.isAbsolute = true then [] else cwd) = start at hreach ⊢
  rcases exists_walkTo_concat hreach hdir hpieces name with ⟨left, hleft⟩
  exact hleft.trans (walkTo_name left hdir hname he hlink)

/-! ## Ways without links -/

/-- A link stands on the way that some names lead. -/
def LinkOn (fs : FileSystem) (loc : Location) (names : List String) : Prop :=
  ∃ before target, before <+: names ∧ fs.entry? (loc ++ before) = some (.link target)

theorem Unlinked.not_linkOn {fs : FileSystem} (h : fs.Unlinked) (loc : Location)
    (names : List String) : ¬fs.LinkOn loc names := by
  rintro ⟨before, target, _, hlink⟩
  exact h.entry?_ne_link _ _ hlink

/-- A way without links has none at its first name, and none behind that. -/
theorem not_linkOn_cons {fs : FileSystem} {loc : Location} {name : String} {names : List String}
    (h : ¬fs.LinkOn loc (name :: names)) :
    (∀ target, fs.entry? (loc ++ [name]) ≠ some (.link target)) ∧
      ¬fs.LinkOn (loc ++ [name]) names := by
  refine ⟨fun target hlink => h ⟨[name], target, ⟨names, rfl⟩, hlink⟩, ?_⟩
  rintro ⟨before, target, ⟨after, hafter⟩, hlink⟩
  refine h ⟨name :: before, target, ⟨after, congrArg _ hafter⟩, ?_⟩
  rw [List.append_assoc] at hlink
  exact hlink

end FileSystem

/-- The path that goes down from a directory by names. -/
def Path.below (dir : Path) (names : List String) : Path :=
  names.foldl (fun p name => p.join ⟨name⟩) dir

/-- A path that goes down by names leads where the names lead, if no link is on the way. How the
    directory was spelled does not matter. -/
theorem FileSystem.Tree.reach_below {fs : FileSystem} (h : fs.Tree) {cwd loc : Location}
    {dir : Path} {names : List String} {e : Entry} (hreach : fs.reach cwd dir = .ok loc)
    (he : fs.entry? (loc ++ names) = some e) (hplain : ¬fs.LinkOn loc names) :
    fs.reach cwd (dir.below names) = .ok (loc ++ names) := by
  induction names generalizing loc dir with
  | nil =>
      rw [List.append_nil]
      exact hreach
  | cons name names ih =>
      rcases not_linkOn_cons hplain with ⟨hlink, hrest⟩
      rcases h.through_of_append he with ⟨hdir, hname, _⟩
      rcases h.exists_entry?_cons he with ⟨next, hnext⟩
      have hone := reach_join hreach hdir hname hnext
        (fun target heq => hlink target (heq ▸ hnext))
      rw [← List.singleton_append, ← List.append_assoc] at he ⊢
      exact ih hone he hrest

end BufferFormat
