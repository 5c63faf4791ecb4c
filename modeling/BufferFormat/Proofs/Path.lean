import BufferFormat.Path
import BufferFormat.Proofs.Text.Split
import Mathlib.Data.List.Forall2
import Mathlib.Data.List.Infix

/-!
# What a spelling means

A path says which steps to take: into a name, or up by a double dot. Separators and dots are only
how it says so. Two absolute paths are the same path exactly if their steps are the same, whatever
their spellings look like, so everything that is computed from an absolute path by going up, by
joining and by comparing can be followed on its steps.

Making a path absolute puts the steps of the working directory in front and is careful to keep
everything else. In particular it keeps double dots, because where those lead is not known before
the links on the way are. The directories that are found by going up from such a path are not those
on the way from the root.

## Main definitions

* `Path.steps`: The steps of a path, in their order.
* `Path.Spells`: An absolute path with given steps.
* `Path.EndsInStep`: A path with no separator and no dot behind its last step.

## Theorems

* `Path.components_of_isAbsolute`: An absolute path consists of its steps.
* `Path.Spells.same_iff`: Absolute paths are the same if their steps are.
* `Path.Spells.join`: Joining adds steps at the end.
* `Path.parent?_of_spells`, `Path.ancestors_of_spells`: Going up takes steps from the end.
* `Path.spells_absoluteFrom`: A path is made absolute by the steps of the working directory.
-/

namespace BufferFormat

namespace Path

/-- The steps that a text says to take. -/
def stepsOf (cs : List Char) : List String :=
  ((Text.splitAt '/' cs).filter (!isVoid ·)).map String.ofList

/-- The steps of a path, in their order. -/
def steps (p : Path) : List String :=
  stepsOf p.text.toList

/-- The component that a step is. -/
def stepComponent (s : String) : Component :=
  if s = ".." then .up else .name s

/-- What can be a step. -/
def IsStep (s : String) : Prop :=
  '/' ∉ s.toList ∧ isVoid s.toList = false

instance (s : String) : Decidable (IsStep s) :=
  inferInstanceAs (Decidable (_ ∧ _))

/-! ## The steps of a text -/

/-- A separator ends a step. -/
theorem stepsOf_append (before after : List Char) :
    stepsOf (before ++ '/' :: after) = stepsOf before ++ stepsOf after := by
  simp only [stepsOf, Text.splitAt_append, List.filter_append, List.map_append]

theorem stepsOf_nil : stepsOf [] = [] := by
  rfl

/-- A separator at the beginning takes no step. -/
theorem stepsOf_cons_slash (cs : List Char) : stepsOf ('/' :: cs) = stepsOf cs :=
  stepsOf_append [] cs

/-- Pieces that were joined are the steps, but for those that are no component. -/
theorem stepsOf_joinWith {pieces : List (List Char)} (h : ∀ piece ∈ pieces, '/' ∉ piece) :
    stepsOf (Text.joinWith '/' pieces) = (pieces.filter (!isVoid ·)).map String.ofList := by
  by_cases hne : pieces = []
  · rw [hne]
    rfl
  · rw [stepsOf, Text.splitAt_joinWith hne h]

/-- What a path begins with is no step. -/
theorem stepsOf_split (cs : List Char) : stepsOf (split cs).2 = stepsOf cs := by
  unfold split
  split
  · exact (stepsOf_cons_slash _).symm
  · rfl
  · rw [stepsOf_cons_slash, ← List.singleton_append, stepsOf_append]
    rfl
  · rfl

theorem isStep_of_mem_stepsOf {cs : List Char} {s : String} (h : s ∈ stepsOf cs) : IsStep s := by
  rcases List.mem_map.mp h with ⟨piece, hpiece, rfl⟩
  rcases List.mem_filter.mp hpiece with ⟨hmem, hvoid⟩
  rw [IsStep, String.toList_ofList]
  exact ⟨Text.not_mem_of_mem_splitAt hmem, Bool.not_eq_eq_eq_not.mp hvoid⟩

/-- A step alone takes that step. -/
theorem steps_of_isStep {s : String} (h : IsStep s) : steps ⟨s⟩ = [s] := by
  rw [steps, stepsOf, Text.splitAt_of_not_mem h.1, List.filter_cons_of_pos (by rw [h.2]; rfl),
    List.filter_nil, List.map_singleton, String.ofList_toList]

/-- A character that neither separates nor is a dot belongs to a step. -/
theorem mem_text_iff {c : Char} (hslash : c ≠ '/') (hdot : c ≠ '.') (p : Path) :
    c ∈ p.text.toList ↔ ∃ s ∈ p.steps, c ∈ s.toList := by
  rw [Text.mem_iff_mem_splitAt hslash]
  constructor
  · rintro ⟨piece, hpiece, hc⟩
    have hkept : isVoid piece = false := by
      rw [isVoid, Bool.or_eq_false_iff, List.isEmpty_eq_false_iff, beq_eq_false_iff_ne]
      refine ⟨List.ne_nil_of_mem hc, ?_⟩
      rintro rfl
      exact hdot (List.mem_singleton.mp hc)
    refine ⟨String.ofList piece, List.mem_map_of_mem (List.mem_filter.mpr ⟨hpiece, ?_⟩), ?_⟩
    · rw [hkept]
      rfl
    · rw [String.toList_ofList]
      exact hc
  · rintro ⟨s, hs, hc⟩
    rcases List.mem_map.mp hs with ⟨piece, hpiece, rfl⟩
    rw [String.toList_ofList] at hc
    exact ⟨piece, (List.mem_filter.mp hpiece).1, hc⟩

/-- There are at most as many steps as characters behind the first one. -/
theorem length_stepsOf_le (cs : List Char) : (stepsOf cs).length ≤ cs.length + 1 := by
  rw [stepsOf, List.length_map]
  exact Nat.le_trans (List.length_filter_le _ _) (Text.length_splitAt_le '/' cs)

/-! ## Components -/

/-- A path consists of what it begins with and its steps. -/
theorem components_eq (p : Path) :
    p.components = (split p.text.toList).1.components ++ p.steps.map stepComponent := by
  have hcomponent : ∀ piece : List Char,
      componentOf piece = stepComponent (String.ofList piece) := by
    intro piece
    have hup : piece = ['.', '.'] ↔ String.ofList piece = ".." := by
      rw [← String.toList_inj, String.toList_ofList]
      rfl
    simp only [componentOf, stepComponent, beq_iff_eq, hup]
  rw [components, steps, ← stepsOf_split, stepsOf, List.map_map]
  congr 2
  exact funext hcomponent

theorem split_of_isAbsolute {p : Path} (h : p.isAbsolute = true) :
    ∃ rest, p.text.toList = '/' :: rest := by
  rw [isAbsolute, beq_iff_eq, List.head?_eq_some_iff] at h
  exact h

/-- An absolute path consists of its steps. -/
theorem components_of_isAbsolute {p : Path} (h : p.isAbsolute = true) :
    p.components = .root :: p.steps.map stepComponent := by
  rcases split_of_isAbsolute h with ⟨rest, htext⟩
  rw [components_eq, htext]
  rfl

/-- A step can be told from its component. -/
theorem stepComponent_injective : Function.Injective stepComponent := by
  intro s t h
  unfold stepComponent at h
  split at h
  · rename_i hs
    split at h
    · rename_i ht
      rw [hs, ht]
    · cases h
  · split at h
    · cases h
    · exact Component.name.inj h

/-- The spelling of a step. -/
theorem path_stepComponent (s : String) : (stepComponent s).path = ⟨s⟩ := by
  unfold stepComponent
  split
  · rename_i hs
    rw [hs]
    rfl
  · rfl

/-- A path that goes up nowhere has no double dot among its steps. -/
theorem up_mem_components_iff (p : Path) : .up ∈ p.components ↔ ".." ∈ p.steps := by
  have hhead : .up ∉ (split p.text.toList).1.components := by
    cases (split p.text.toList).1 <;> decide
  rw [components_eq, List.mem_append, or_iff_right hhead, List.mem_map]
  constructor
  · rintro ⟨s, hs, hup⟩
    rw [← stepComponent_injective (hup.trans rfl : stepComponent s = stepComponent "..")]
    exact hs
  · intro hs
    exact ⟨"..", hs, rfl⟩

/-! ## Absolute paths by their steps -/

/-- An absolute path with the given steps. -/
structure Spells (p : Path) (names : List String) : Prop where
  absolute : p.isAbsolute = true
  steps_eq : p.steps = names

/-- Absolute paths are the same if their steps are. -/
theorem Spells.same_iff {p q : Path} {names others : List String} (hp : p.Spells names)
    (hq : q.Spells others) : p.same q = true ↔ names = others := by
  rw [same, beq_iff_eq, components_of_isAbsolute hp.absolute, components_of_isAbsolute hq.absolute,
    hp.steps_eq, hq.steps_eq, List.cons_inj_right, stepComponent_injective.list_map.eq_iff]

/-- A path is as good as another one with the same steps when it is compared. -/
theorem Spells.same_congr {p q : Path} {names : List String} (hp : p.Spells names)
    (hq : q.Spells names) (other : Path) : other.same p = other.same q := by
  rw [same, same, components_of_isAbsolute hp.absolute, components_of_isAbsolute hq.absolute,
    hp.steps_eq, hq.steps_eq]

/-- Going into a relative path adds its steps. -/
theorem steps_join {p r : Path} (hr : r.isAbsolute = false) :
    (p.join r).steps = p.steps ++ r.steps := by
  unfold join
  rw [hr, Bool.false_or]
  split
  · rename_i hempty
    rw [show p.steps = [] by rw [steps, String.isEmpty_iff.mp hempty]; rfl, List.nil_append]
  · split
    · rename_i hlast
      rw [beq_iff_eq, List.getLast?_eq_some_iff] at hlast
      rcases hlast with ⟨before, hbefore⟩
      rw [steps, steps, steps, String.toList_append, hbefore, List.append_assoc,
        List.singleton_append, stepsOf_append, stepsOf_append, stepsOf_nil, List.append_nil]
    · rw [steps, String.toList_append, String.toList_append, List.append_assoc]
      exact stepsOf_append _ _

theorem isAbsolute_join {p r : Path} (hr : r.isAbsolute = false) :
    (p.join r).isAbsolute = p.isAbsolute := by
  unfold join
  rw [hr, Bool.false_or]
  split
  · rename_i hempty
    rw [hr, isAbsolute, String.isEmpty_iff.mp hempty]
    rfl
  · rename_i hempty
    have hne : p.text.toList ≠ [] := by
      intro hnil
      exact hempty (String.isEmpty_iff.mpr (String.toList_eq_nil_iff.mp hnil))
    split <;>
      simp only [isAbsolute, String.toList_append, List.append_assoc,
        List.head?_append_of_ne_nil _ hne]

/-- A relative path inside an absolute one. -/
theorem Spells.join {p r : Path} {names : List String} (hp : p.Spells names)
    (hr : r.isAbsolute = false) : (p.join r).Spells (names ++ r.steps) where
  absolute := (isAbsolute_join hr).trans hp.absolute
  steps_eq := by rw [steps_join hr, hp.steps_eq]

theorem isAbsolute_of_isStep {s : String} (h : IsStep s) : isAbsolute ⟨s⟩ = false := by
  rw [isAbsolute, beq_eq_false_iff_ne]
  intro hhead
  exact h.1 (List.mem_of_mem_head? hhead)

/-! ## Going up -/

/-- What is no component is dropped from the end, and nothing else. -/
theorem filter_dropVoidEnd (pieces : List (List Char)) :
    (dropVoidEnd pieces).filter (!isVoid ·) = pieces.filter (!isVoid ·) := by
  have hdrop : ∀ xs : List (List Char),
      (xs.dropWhile isVoid).filter (!isVoid ·) = xs.filter (!isVoid ·) := by
    intro xs
    induction xs with
    | nil => rfl
    | cons x xs ih =>
        by_cases hx : isVoid x = true
        · rw [List.dropWhile_cons_of_pos hx, ih, List.filter_cons_of_neg]
          simp only [hx, Bool.not_true, Bool.false_eq_true, not_false_eq_true]
        · rw [List.dropWhile_cons_of_neg hx]
  rw [dropVoidEnd, List.filter_reverse, hdrop, List.filter_reverse, List.reverse_reverse]

theorem mem_of_mem_dropVoidEnd {pieces : List (List Char)} {piece : List Char}
    (h : piece ∈ dropVoidEnd pieces) : piece ∈ pieces := by
  rw [dropVoidEnd, List.mem_reverse] at h
  exact List.mem_reverse.mp ((List.dropWhile_sublist _).subset h)

/-- What is left after dropping from the end is nothing, or it ends in a component. -/
theorem dropVoidEnd_cases (pieces : List (List Char)) :
    dropVoidEnd pieces = [] ∨
      ∃ before last, dropVoidEnd pieces = before ++ [last] ∧ isVoid last = false := by
  rw [dropVoidEnd]
  have hhead := List.head?_dropWhile_not isVoid pieces.reverse
  cases hpieces : pieces.reverse.dropWhile isVoid with
  | nil => exact Or.inl rfl
  | cons last before =>
      rw [hpieces] at hhead
      exact Or.inr ⟨before.reverse, last, List.reverse_cons, hhead⟩

/-- The parent of an absolute path lacks its last step. Without a step there is no parent. -/
theorem parent?_of_spells {p : Path} {names : List String} (hp : p.Spells names) :
    names = [] ∧ p.parent? = none ∨
      ∃ before last q, names = before ++ [last] ∧ p.parent? = some q ∧ q.Spells before := by
  rcases split_of_isAbsolute hp.absolute with ⟨rest, htext⟩
  have hsplit : split p.text.toList = (.root, rest) := by
    rw [htext]
    rfl
  have hnames : names =
      ((dropVoidEnd (Text.splitAt '/' rest)).filter (!isVoid ·)).map String.ofList := by
    rw [filter_dropVoidEnd, ← hp.steps_eq, steps, htext, stepsOf_cons_slash, stepsOf]
  have hslash : ∀ piece ∈ dropVoidEnd (Text.splitAt '/' rest), '/' ∉ piece := by
    intro piece hpiece
    exact Text.not_mem_of_mem_splitAt (mem_of_mem_dropVoidEnd hpiece)
  simp only [parent?, hsplit]
  rcases dropVoidEnd_cases (Text.splitAt '/' rest) with hnil | ⟨before, last, hlast, hkept⟩
  · rw [hnil] at hnames ⊢
    exact Or.inl ⟨hnames, rfl⟩
  · rw [hlast] at hnames hslash ⊢
    rw [List.filter_append, List.filter_cons_of_pos (by rw [hkept]; rfl), List.filter_nil,
      List.map_append] at hnames
    rw [List.reverse_append, List.reverse_singleton, List.singleton_append]
    refine Or.inr ⟨_, _, _, hnames, rfl, ?_, ?_⟩
    · rw [isAbsolute, String.toList_ofList]
      rfl
    · -- The pieces before the last one are joined behind a separator.
      rw [steps, String.toList_ofList, Head.chars, List.singleton_append, stepsOf_cons_slash,
        List.reverse_reverse, stepsOf_joinWith, filter_dropVoidEnd]
      intro piece hpiece
      exact hslash piece (List.mem_append_left _ (mem_of_mem_dropVoidEnd hpiece))

/-- Going up from an absolute path takes away one step at a time. -/
theorem ancestorsWithin_of_spells (n : Nat) {p : Path} {names : List String}
    (hp : p.Spells names) (hn : names.length ≤ n) :
    List.Forall₂ Spells (ancestorsWithin n p) names.inits.reverse := by
  induction n generalizing p names with
  | zero =>
      rw [List.length_eq_zero_iff.mp (Nat.le_zero.mp hn)] at hp ⊢
      exact .cons hp .nil
  | succ n ih =>
      rcases parent?_of_spells hp with ⟨rfl, hparent⟩ | ⟨before, last, q, rfl, hparent, hq⟩
      · rw [ancestorsWithin, hparent]
        exact .cons hp .nil
      · rw [ancestorsWithin, hparent, List.inits_append, List.reverse_append]
        rw [List.length_append, List.length_singleton] at hn
        exact .cons hp (ih hq (by omega))

/-- What is above an absolute path has the first of its steps, from the root down in the reverse
    order. -/
theorem ancestors_of_spells {p : Path} {names : List String} (hp : p.Spells names) :
    List.Forall₂ Spells p.ancestors.reverse names.inits := by
  rcases split_of_isAbsolute hp.absolute with ⟨rest, htext⟩
  have hfuel : names.length ≤ p.text.toList.length := by
    rw [← hp.steps_eq, steps, htext, stepsOf_cons_slash]
    exact length_stepsOf_le rest
  rw [← List.reverse_reverse names.inits, List.forall₂_reverse_iff]
  exact ancestorsWithin_of_spells _ hp hfuel

/-! ## Absolute forms -/

/-- A path with no separator and no dot behind its last step. -/
def EndsInStep (p : Path) : Prop :=
  ∃ before last, Text.splitAt '/' p.text.toList = before ++ [last] ∧ isVoid last = false

theorem endsInStep_of_isStep {s : String} (h : IsStep s) : EndsInStep ⟨s⟩ :=
  ⟨[], s.toList, Text.splitAt_of_not_mem h.1, h.2⟩

/-- A path ends in a step if it was joined with one that does. -/
theorem endsInStep_join {p r : Path} (hr : r.isAbsolute = false) (hend : r.EndsInStep) :
    (p.join r).EndsInStep := by
  rcases hend with ⟨before, last, hlast, hvoid⟩
  unfold join
  rw [hr, Bool.false_or]
  split
  · exact ⟨before, last, hlast, hvoid⟩
  · split
    · rename_i hslash
      rw [beq_iff_eq, List.getLast?_eq_some_iff] at hslash
      rcases hslash with ⟨start, hstart⟩
      refine ⟨Text.splitAt '/' start ++ before, last, ?_, hvoid⟩
      rw [String.toList_append, hstart, List.append_assoc, List.singleton_append,
        Text.splitAt_append, hlast, List.append_assoc]
    · refine ⟨Text.splitAt '/' p.text.toList ++ before, last, ?_, hvoid⟩
      rw [String.toList_append, String.toList_append, List.append_assoc, List.append_assoc,
        ← hlast]
      exact Text.splitAt_append _ _ _

/-- A path that ends in a step has a last step, and does not end in a separator. -/
theorem EndsInStep.concat {p : Path} (h : p.EndsInStep) :
    (∃ before last, p.steps = before ++ [last]) ∧ p.text.toList.getLast? ≠ some '/' := by
  rcases h with ⟨before, last, hlast, hvoid⟩
  constructor
  · refine ⟨(before.filter (!isVoid ·)).map String.ofList, String.ofList last, ?_⟩
    rw [steps, stepsOf, hlast, List.filter_append, List.filter_cons_of_pos (by rw [hvoid]; rfl),
      List.filter_nil, List.map_append, List.map_singleton]
  · intro hslash
    rcases List.getLast?_eq_some_iff.mp hslash with ⟨start, hstart⟩
    rw [hstart, Text.splitAt_append] at hlast
    rw [← List.cons.inj (List.append_inj_right' hlast rfl) |>.1] at hvoid
    cases hvoid

/-- A path joined with components, one after the other. -/
def joinAll (q : Path) (components : List Component) : Path :=
  components.foldl (fun q c => q.join c.path) q

/-- Joining with steps adds them at the end. -/
theorem Spells.joinAll {names : List String} (hnames : ∀ name ∈ names, IsStep name)
    {q : Path} {start : List String} (hq : q.Spells start) :
    (q.joinAll (names.map stepComponent)).Spells (start ++ names) := by
  induction names generalizing q start with
  | nil =>
      rw [List.append_nil]
      exact hq
  | cons name names ih =>
      rw [List.forall_mem_cons] at hnames
      have hjoin := hq.join (isAbsolute_of_isStep hnames.1)
      rw [steps_of_isStep hnames.1] at hjoin
      have hrest := ih hnames.2 hjoin
      rw [List.append_assoc, List.singleton_append] at hrest
      rw [Path.joinAll, List.map_cons, List.foldl_cons, path_stepComponent]
      exact hrest

/-- What was joined with steps ends in a step. -/
theorem endsInStep_joinAll {before : List String} {last : String} (hlast : IsStep last)
    (q : Path) : (q.joinAll ((before ++ [last]).map stepComponent)).EndsInStep := by
  rw [joinAll, List.map_append, List.foldl_append, List.map_singleton, List.foldl_cons,
    List.foldl_nil, path_stepComponent]
  exact endsInStep_join (isAbsolute_of_isStep hlast) (endsInStep_of_isStep hlast)

/-- Where an absolute form starts, and the components that are joined to that. -/
def absoluteStart (cwd p : Path) : Path × List Component :=
  if p.isAbsolute then
    match p.text.toList with
    | '/' :: '/' :: '/' :: _ => (⟨""⟩, p.components)
    | '/' :: '/' :: _ => (⟨"//"⟩, p.components.drop 1)
    | _ => (⟨""⟩, p.components)
  else
    match p.components with
    | .here :: rest => (cwd, rest)
    | components => (cwd, components)

/-- An absolute form, but for a separator at its end. -/
def joinStart (cwd p : Path) : Path :=
  (absoluteStart cwd p).1.joinAll (absoluteStart cwd p).2

theorem absoluteFrom_eq (cwd p : Path) :
    absoluteFrom cwd p =
      if p.text.toList.getLast? == some '/' then (joinStart cwd p).join ⟨""⟩
      else joinStart cwd p := by
  rfl

/-- An absolute path is put together from its steps, starting with something that spells the
    root. -/
theorem joinStart_of_isAbsolute {p : Path} (h : p.isAbsolute = true) (cwd : Path) :
    ∃ q : Path, q.Spells [] ∧
      joinStart cwd p = q.joinAll (p.steps.map stepComponent) := by
  rw [joinStart, absoluteStart, if_pos h, components_of_isAbsolute h]
  split
  · exact ⟨⟨"/"⟩, ⟨rfl, rfl⟩, rfl⟩
  · exact ⟨⟨"//"⟩, ⟨rfl, rfl⟩, rfl⟩
  · exact ⟨⟨"/"⟩, ⟨rfl, rfl⟩, rfl⟩

/-- A relative path is put together from its steps, starting with the working directory. -/
theorem joinStart_of_not_isAbsolute {p : Path} (h : p.isAbsolute = false)
    (cwd : Path) :
    joinStart cwd p = cwd.joinAll (p.steps.map stepComponent) := by
  have hhead : (split p.text.toList).1 ≠ .root := by
    intro hroot
    unfold split at hroot
    split at hroot
    · rename_i htext
      rw [isAbsolute, htext] at h
      cases h
    all_goals cases hroot
  rw [joinStart, absoluteStart, h, if_neg Bool.false_ne_true, components_eq]
  cases hsplit : (split p.text.toList).1 with
  | root => exact absurd hsplit hhead
  | here => rfl
  | none =>
      rw [Head.components, List.nil_append]
      split
      · -- A step is never the dot at the beginning.
        rename_i hsteps
        rcases List.map_eq_cons_iff.mp hsteps with ⟨s, _, _, hs, _⟩
        unfold stepComponent at hs
        split at hs <;> cases hs
      · rfl

/-- The steps behind which the steps of a path are put to make it absolute. -/
def base (names : List String) (p : Path) : List String :=
  if p.isAbsolute then [] else names

/-- Either way the steps of the path are joined to what spells the steps in front of them. -/
theorem joinStart_eq (cwd p : Path) :
    ∃ q : Path, joinStart cwd p = q.joinAll (p.steps.map stepComponent) ∧
      ∀ names, cwd.Spells names → q.Spells (p.base names) := by
  cases habs : p.isAbsolute with
  | true =>
      rcases joinStart_of_isAbsolute habs cwd with ⟨q, hq, heq⟩
      refine ⟨q, heq, fun names _ => ?_⟩
      rw [base, if_pos habs]
      exact hq
  | false =>
      refine ⟨cwd, joinStart_of_not_isAbsolute habs cwd, fun names hcwd => ?_⟩
      rw [base, if_neg (Bool.eq_false_iff.mp habs)]
      exact hcwd

/-- An absolute form has the steps of the path, behind those of the working directory if the path
    is relative. -/
theorem spells_absoluteFrom {cwd : Path} {names : List String} (hcwd : cwd.Spells names)
    (p : Path) : (absoluteFrom cwd p).Spells (p.base names ++ p.steps) := by
  rcases joinStart_eq cwd p with ⟨q, heq, hq⟩
  have hpath : (joinStart cwd p).Spells (p.base names ++ p.steps) := by
    rw [heq]
    exact (hq names hcwd).joinAll fun _ => isStep_of_mem_stepsOf
  rw [absoluteFrom_eq]
  split
  · -- A separator at the end takes no step.
    have hjoin := hpath.join (rfl : isAbsolute ⟨""⟩ = false)
    rw [show steps ⟨""⟩ = [] from rfl, List.append_nil] at hjoin
    exact hjoin
  · exact hpath

/-- The absolute form of a path that ends in a step does so as well. -/
theorem EndsInStep.absoluteFrom {p : Path} (h : p.EndsInStep) (cwd : Path) :
    (absoluteFrom cwd p).EndsInStep := by
  rcases h.concat with ⟨⟨before, last, hsteps⟩, hslash⟩
  have hlast : IsStep last := by
    have hmem : last ∈ p.steps := by
      rw [hsteps]
      exact List.mem_concat_self
    exact isStep_of_mem_stepsOf hmem
  rcases joinStart_eq cwd p with ⟨q, heq, _⟩
  rw [absoluteFrom_eq, if_neg (fun h => hslash (beq_iff_eq.mp h)), heq, hsteps]
  exact endsInStep_joinAll hlast q

end Path

end BufferFormat
