import StyleSnapshot.Proofs.Histogram
import StyleSnapshot.Report.Basic

/-! Putting reports together.

Merging is associative and the empty report is neutral to it, so that the report on many
parts is one merge of all of them (`mergeAll`). In which order the parts are merged shows
in the order of the lists only (`mergeAll_perm`). A report that some outcomes were
recorded on is known in full (`foldl_record`): its counts and those of its last file have
grown by the counts of the outcomes, and its failures come in the order of the cases. -/
namespace StyleSnapshot

/-! ### Counts -/

namespace Counts

theorem add_comm (a b : Counts) : a.add b = b.add a := by
  simp only [add, Nat.add_comm]

theorem add_assoc (a b c : Counts) : (a.add b).add c = a.add (b.add c) := by
  simp only [add, Nat.add_assoc]

theorem zero_add (a : Counts) : zero.add a = a := by
  simp only [add, zero, Nat.zero_add]

theorem add_zero (a : Counts) : a.add zero = a := rfl

/-- The counts of several parts together. -/
def sum (parts : List Counts) : Counts := parts.foldr add zero

theorem sum_cons (a : Counts) (parts : List Counts) : sum (a :: parts) = a.add (sum parts) := rfl

theorem sum_append (parts more : List Counts) : sum (parts ++ more) = (sum parts).add (sum more) := by
  induction parts with
  | nil => exact (zero_add _).symm
  | cons a parts ih => rw [List.cons_append, sum_cons, sum_cons, ih, add_assoc]

end Counts

namespace Outcome

/-- The counts of the cases that had some outcomes. -/
def counts (outcomes : List Outcome) : Counts := .sum (outcomes.map .ofOutcome)

/-- Why an outcome is no evaluation, if it is none. -/
def skipReason? : Outcome → Option Text
  | .skipped reason => some reason
  | .passed | .failed _ => none

theorem counts_cons (o : Outcome) (outcomes : List Outcome) :
    counts (o :: outcomes) = (Counts.ofOutcome o).add (counts outcomes) := rfl

theorem total_counts (outcomes : List Outcome) :
    (counts outcomes).total = outcomes.length := by
  induction outcomes with
  | nil => rfl
  | cons o outcomes ih =>
    rw [counts_cons, Counts.add, ih, List.length_cons, Nat.add_comm]
    cases o <;> rfl

theorem skipped_counts (outcomes : List Outcome) :
    (counts outcomes).skipped = (outcomes.filterMap (·.skipReason?)).length := by
  induction outcomes with
  | nil => rfl
  | cons o outcomes ih =>
    rw [counts_cons, Counts.add, ih]
    cases o <;> simp [Counts.ofOutcome, skipReason?, Nat.add_comm]

theorem passed_counts (outcomes : List Outcome) :
    (counts outcomes).passed = outcomes.countP (· = .passed) := by
  induction outcomes with
  | nil => rfl
  | cons o outcomes ih =>
    rw [counts_cons, Counts.add, ih]
    cases o <;> simp [Counts.ofOutcome, Nat.add_comm]

end Outcome

namespace Report

/-! ### Merging -/

theorem merge_assoc (a b c : Report) : (a.merge b).merge c = a.merge (b.merge c) := by
  simp only [merge, Counts.add_assoc, Histogram.merge_assoc, List.append_assoc]

theorem empty_merge (r : Report) : empty.merge r = r := by
  simp only [merge, empty, Counts.zero_add, Histogram.empty_merge, List.nil_append]

theorem merge_empty (r : Report) : r.merge empty = r := by
  simp only [merge, empty, Counts.add_zero, Histogram.merge_empty, List.append_nil]

/-- The report on several parts. -/
def mergeAll (parts : List Report) : Report := parts.foldr merge empty

theorem mergeAll_append (parts more : List Report) :
    mergeAll (parts ++ more) = (mergeAll parts).merge (mergeAll more) := by
  induction parts with
  | nil => exact (empty_merge _).symm
  | cons r parts ih =>
    simp only [mergeAll, List.cons_append, List.foldr_cons] at ih ⊢
    rw [ih, merge_assoc]

/-! ### The order of parts -/

/-- Two reports that differ in the order of their lists at most. -/
structure Rearranged (a b : Report) : Prop where
  counts : a.counts = b.counts
  skipReasons : a.skipReasons = b.skipReasons
  files : a.files.Perm b.files
  failures : a.failures.Perm b.failures
  unreadable : a.unreadable.Perm b.unreadable

namespace Rearranged
variable {a b c d : Report}

theorem refl (r : Report) : Rearranged r r := ⟨rfl, rfl, .refl _, .refl _, .refl _⟩

theorem trans (h : Rearranged a b) (h' : Rearranged b c) : Rearranged a c where
  counts := h.counts.trans h'.counts
  skipReasons := h.skipReasons.trans h'.skipReasons
  files := h.files.trans h'.files
  failures := h.failures.trans h'.failures
  unreadable := h.unreadable.trans h'.unreadable

theorem merge (h : Rearranged a b) (h' : Rearranged c d) : Rearranged (a.merge c) (b.merge d) where
  counts := by simp only [Report.merge, h.counts, h'.counts]
  skipReasons := by simp only [Report.merge, h.skipReasons, h'.skipReasons]
  files := h.files.append h'.files
  failures := h.failures.append h'.failures
  unreadable := h.unreadable.append h'.unreadable

theorem merge_comm (a b : Report) : Rearranged (a.merge b) (b.merge a) where
  counts := Counts.add_comm _ _
  skipReasons := Histogram.merge_comm _ _
  files := List.perm_append_comm
  failures := List.perm_append_comm
  unreadable := List.perm_append_comm

end Rearranged

/-- The order of the parts is the order of the lists, and nothing else. -/
theorem mergeAll_perm {parts more : List Report} (h : parts.Perm more) :
    Rearranged (mergeAll parts) (mergeAll more) := by
  induction h with
  | nil => exact .refl _
  | cons r _ ih => exact (Rearranged.refl r).merge ih
  | swap r s parts =>
    have hswap : Rearranged ((s.merge r).merge (mergeAll parts)) ((r.merge s).merge (mergeAll parts)) :=
      (Rearranged.merge_comm s r).merge (.refl _)
    rwa [merge_assoc, merge_assoc] at hswap
  | trans _ _ ih ih' => exact ih.trans ih'

/-! ### Recording -/

theorem charge_append (counts : Counts) (files : List FileSummary) (last : FileSummary) :
    charge counts (files ++ [last]) =
      files ++ [{ last with counts := last.counts.add counts }] := by
  induction files with
  | nil => rfl
  | cons file files ih =>
    cases files with
    | nil => rfl
    | cons next files => exact congrArg (file :: ·) ih

theorem charge_ne_nil {c : Counts} {files : List FileSummary} (h : files ≠ []) :
    charge c files ≠ [] := by
  rcases List.eq_nil_or_concat files with rfl | ⟨files, last, rfl⟩
  · exact absurd rfl h
  · simp [charge_append]

theorem charge_zero (files : List FileSummary) : charge .zero files = files := by
  rcases List.eq_nil_or_concat files with rfl | ⟨files, last, rfl⟩
  · rfl
  · rw [List.concat_eq_append, charge_append, Counts.add_zero]

theorem charge_charge (a b : Counts) (files : List FileSummary) :
    charge b (charge a files) = charge (a.add b) files := by
  rcases List.eq_nil_or_concat files with rfl | ⟨files, last, rfl⟩
  · rfl
  · simp only [List.concat_eq_append, charge_append, Counts.add_assoc]

theorem foldl_countReason (outcomes : List Outcome) (h : Histogram) :
    outcomes.foldl countReason h =
      (outcomes.filterMap (·.skipReason?)).foldl (fun h reason => h.add reason 1) h := by
  induction outcomes generalizing h with
  | nil => rfl
  | cons o outcomes ih =>
    rw [List.foldl_cons, ih]
    cases o <;> rfl

/-- A report with some more outcomes. -/
theorem foldl_record (file : Path) (results : List (Fixture.TestCase × Outcome)) (r : Report) :
    results.foldl (fun r result => r.record file result.1 result.2) r =
      { counts := r.counts.add (Outcome.counts (results.map (·.2)))
        files := charge (Outcome.counts (results.map (·.2))) r.files
        failures := r.failures ++ results.filterMap fun result => failure? file result.1 result.2
        skipReasons := (results.map (·.2)).foldl countReason r.skipReasons
        unreadable := r.unreadable } := by
  induction results generalizing r with
  | nil => simp [Outcome.counts, Counts.sum, Counts.add_zero, charge_zero]
  | cons result results ih =>
    rw [List.foldl_cons, ih]
    have hfailures : (result :: results).filterMap (fun x => failure? file x.1 x.2) =
        (failure? file result.1 result.2).toList ++
          results.filterMap fun x => failure? file x.1 x.2 := by
      rw [List.filterMap_cons]
      cases failure? file result.1 result.2 <;> rfl
    simp only [record, hfailures, Outcome.counts_cons, Counts.add_assoc, charge_charge,
      List.append_assoc, List.map_cons, List.foldl_cons]

end Report
end StyleSnapshot
