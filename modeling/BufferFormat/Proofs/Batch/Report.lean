import BufferFormat.Batch.Tally
import BufferFormat.Proofs.Text.Split
import Mathlib.Data.List.Basic

/-!
# What is said about a batch

The jobs of a batch report to a common tally, and the first of them that cannot find the formatter
says so for all. The order in which they report is not fixed, so the tally and the messages are
described here in a form that does not show it.

The tally is a number of counts, and counting does not depend on the order. For the messages, the
one about the formatter is set apart from those that every job makes for itself. A job that reports
then either makes its own message, or it makes the common one and raises the flag that keeps the
others from repeating it, and `Tally.raised_report` has both cases in one equation.

Every message is made up of whole lines. So if two runs say the same things in a different order,
they print the same lines in a different order.

## Main definitions

* `Tally.isFailed`, `Tally.isUnavailable`: How a run ended, as far as the tally is concerned.
* `Fault.alarm`: The message that a formatter could not be found.
* `Tally.raised`: The common message, once it was made.
* `spoken`: A message, if there is one.
* `IsLines`: A text of whole lines.

## Theorems

* `Tally.foldl_count`: The tally of a batch, by its counts.
* `Tally.exitStatus_ofResults`: What a batch as a whole came to.
* `Tally.raised_report`: What a job says when it reports.
* `perm_lines`: The same messages in another order are the same lines in another order.
-/

namespace BufferFormat

/-! ## The tally -/

namespace Tally

/-- A run that replaced a text, or showed a diff of it. -/
def isReformatted : Except Fault Applied → Bool
  | .ok .reformatted | .ok .diffShown => true
  | _ => false

def isUnchanged : Except Fault Applied → Bool
  | .ok .unchanged => true
  | _ => false

/-- A run that stopped, or that the formatter refused. -/
def isFailed : Except Fault Applied → Bool
  | .ok (.rejected _) | .error _ => true
  | _ => false

/-- A run that could not find the formatter. -/
def isUnavailable : Except Fault Applied → Bool
  | .error fault => fault.isToolUnavailable
  | .ok _ => false

/-- The tally of results, in whatever order they came in. -/
def ofResults (results : List (Except Fault Applied)) : Tally where
  reformatted := results.countP isReformatted
  unchanged := results.countP isUnchanged
  failed := results.countP isFailed
  toolUnavailable := results.any isUnavailable

/-- The sum of two tallies. -/
def add (t u : Tally) : Tally :=
  ⟨t.reformatted + u.reformatted, t.unchanged + u.unchanged, t.failed + u.failed,
    t.toolUnavailable || u.toolUnavailable⟩

theorem add_assoc (t u v : Tally) : (t.add u).add v = t.add (u.add v) := by
  simp only [add, Nat.add_assoc, Bool.or_assoc]

@[simp] theorem empty_add (t : Tally) : add {} t = t := by
  simp only [add, Nat.zero_add, Bool.false_or]

/-- To count a result is to add the tally of it. -/
theorem count_eq_add (t : Tally) (result : Except Fault Applied) :
    t.count result = t.add (ofResults [result]) := by
  rcases result with fault | applied
  · simp only [count, add, ofResults, List.countP_singleton, isReformatted, isUnchanged, isFailed,
      isUnavailable, List.any_cons, List.any_nil, Bool.or_false, Bool.false_eq_true, if_false,
      if_true, Nat.add_zero]
  · cases applied <;>
      simp only [count, add, ofResults, List.countP_singleton, isReformatted, isUnchanged,
        isFailed, isUnavailable, List.any_cons, List.any_nil, Bool.or_false, Bool.false_eq_true,
        if_false, if_true, Nat.add_zero]

theorem ofResults_cons (result : Except Fault Applied) (results : List (Except Fault Applied)) :
    ofResults (result :: results) = (ofResults [result]).add (ofResults results) := by
  simp only [ofResults, add, List.countP_cons, List.countP_nil, List.any_cons, List.any_nil,
    Bool.or_false, Nat.zero_add, Nat.add_comm]

/-- Counting results one after the other comes to their tally. -/
theorem foldl_count (t : Tally) (results : List (Except Fault Applied)) :
    results.foldl count t = t.add (ofResults results) := by
  induction results generalizing t with
  | nil => simp only [List.foldl_nil, add, ofResults, List.countP_nil, List.any_nil, Nat.add_zero,
      Bool.or_false]
  | cons result results ih =>
      rw [List.foldl_cons, ih, count_eq_add, add_assoc, ← ofResults_cons]

/-- The order of results does not matter. -/
theorem ofResults_perm {results results' : List (Except Fault Applied)}
    (h : results.Perm results') : ofResults results = ofResults results' := by
  simp only [ofResults, h.countP_eq, h.any_eq]

theorem foldl_count_perm {results results' : List (Except Fault Applied)}
    (h : results.Perm results') (t : Tally) : results.foldl count t = results'.foldl count t := by
  rw [foldl_count, foldl_count, ofResults_perm h]

/-- Every result is counted once. -/
theorem counts_ofResults (results : List (Except Fault Applied)) :
    (ofResults results).reformatted + (ofResults results).unchanged + (ofResults results).failed =
      results.length := by
  induction results with
  | nil => rfl
  | cons result results ih =>
      have hone : (ofResults [result]).reformatted + (ofResults [result]).unchanged +
          (ofResults [result]).failed = 1 := by
        rcases result with fault | applied
        · rfl
        · cases applied <;> rfl
      rw [ofResults_cons, List.length_cons]
      simp only [add]
      omega

/-- What a batch as a whole came to. -/
theorem exitStatus_ofResults (results : List (Except Fault Applied)) :
    (ofResults results).exitStatus =
      if ∃ result ∈ results, isUnavailable result = true then 2
      else if ∃ result ∈ results, isFailed result = true then 1 else 0 := by
  unfold exitStatus ofResults
  simp only [List.any_eq_true, List.countP_pos_iff]

end Tally

/-! ## Messages -/

/-- A message, if there is one. -/
def spoken (message : String) : List String :=
  if message.isEmpty then [] else [message]

theorem join_spoken (message : String) : String.join (spoken message) = message := by
  unfold spoken
  split
  · rename_i h
    rw [String.isEmpty_iff.mp h]
    rfl
  · rw [String.join_cons, String.join_nil, String.append_empty]

theorem spoken_empty : spoken "" = [] := rfl

/-- A text of whole lines, at least one. -/
def IsLines (text : String) : Prop :=
  ∃ cs, text.toList = cs ++ ['\n']

theorem isLines_append (text : String) : IsLines (text ++ "\n") :=
  ⟨text.toList, String.toList_append⟩

/-- A text of whole lines is a message. -/
theorem spoken_of_isLines {text : String} (h : IsLines text) : spoken text = [text] := by
  rcases h with ⟨cs, hcs⟩
  refine if_neg fun hempty => ?_
  rw [String.isEmpty_iff.mp hempty] at hcs
  exact absurd hcs.symm (List.append_ne_nil_of_right_ne_nil _ nofun)

/-- The message that a formatter could not be found. -/
def Fault.alarm (fault : Fault) : String :=
  "Error: " ++ fault.message ++ "\n"

/-- The message that a formatter could not be found, once it was made. -/
def Tally.raised (alarm : String) (t : Tally) : List String :=
  if t.toolUnavailable then [alarm] else []

/-- What a job says for itself when it reports. -/
def Tally.ownReport (silent : Bool) (name : String) (result : Except Fault Applied) : String :=
  Tally.report { toolUnavailable := true } silent name result

/-- A job that reports says what it has to say for itself, or it raises the alarm for all. -/
theorem Tally.raised_report {alarm : String} {result : Except Fault Applied}
    (h : ∀ fault, result = .error fault → fault.isToolUnavailable = true → fault.alarm = alarm)
    (t : Tally) (silent : Bool) (name : String) :
    t.raised alarm ++ spoken (t.report silent name result) =
      (t.count result).raised alarm ++ spoken (ownReport silent name result) := by
  rcases result with fault | applied
  · cases htool : fault.isToolUnavailable with
    | false =>
        simp only [raised, report, ownReport, count, htool, Bool.or_false, Bool.false_eq_true,
          if_false]
    | true =>
        -- The first to say so says it aloud, and the flag silences the others.
        cases hflag : t.toolUnavailable with
        | true => simp only [raised, report, ownReport, count, htool, hflag, Bool.or_true, if_true]
        | false =>
            simp only [raised, report, ownReport, count, htool, hflag, Bool.or_true, if_true,
              Bool.false_eq_true, if_false, spoken_empty, List.nil_append, List.append_nil]
            rw [← h fault rfl htool]
            exact spoken_of_isLines (isLines_append _)
  · cases applied <;> rfl

/-! ## Lines -/

/-- The lines of a text, without what stands behind the last of them. -/
def wholeLines (text : String) : List (List Char) :=
  (Text.splitAt '\n' text.toList).dropLast

/-- Whole lines come before what follows. -/
theorem splitAt_of_isLines {text : String} (h : IsLines text) (after : List Char) :
    Text.splitAt '\n' (text.toList ++ after) = wholeLines text ++ Text.splitAt '\n' after := by
  rcases h with ⟨cs, hcs⟩
  have hlast : Text.splitAt '\n' (cs ++ ['\n']) = Text.splitAt '\n' cs ++ [[]] :=
    Text.splitAt_append '\n' cs []
  rw [wholeLines, hcs, hlast, List.dropLast_concat, List.append_assoc]
  exact Text.splitAt_append '\n' cs after

/-- Messages of whole lines come one after the other, before what follows. -/
theorem splitAt_join {messages : List String} (h : ∀ message ∈ messages, IsLines message)
    (after : List Char) :
    Text.splitAt '\n' ((String.join messages).toList ++ after) =
      messages.flatMap wholeLines ++ Text.splitAt '\n' after := by
  induction messages with
  | nil => rfl
  | cons message messages ih =>
      rw [List.forall_mem_cons] at h
      rw [String.join_cons, String.toList_append, List.append_assoc, splitAt_of_isLines h.1,
        ih h.2, List.flatMap_cons, List.append_assoc]

/-- The same messages in another order are the same lines in another order. -/
theorem perm_lines {messages messages' : List String} (hperm : messages.Perm messages')
    (h : ∀ message ∈ messages, IsLines message) (after : String) :
    (Text.splitAt '\n' (String.join messages ++ after).toList).Perm
      (Text.splitAt '\n' (String.join messages' ++ after).toList) := by
  rw [String.toList_append, String.toList_append, splitAt_join h,
    splitAt_join fun message hmem => h message (hperm.mem_iff.mpr hmem)]
  exact (hperm.flatMap_right wholeLines).append_right _

end BufferFormat
