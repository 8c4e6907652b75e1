import StyleSnapshot.Proofs.Report.Merge

/-! Recording on a part and on the whole.

An outcome is charged to the last file of a report, and the last file of two reports together is
that of the second, unless it has none. So whether an outcome is recorded before the second report
is merged into the first or afterwards makes no difference, except where the second has no file to
charge and the first has (`merge_record_iff`). A file can therefore be reported on by itself and
merged when all of its cases are known (`merge_foldl_record`). -/
namespace StyleSnapshot

/-- Meeting a text once more before or after merging. -/
theorem Histogram.merge_add (a b : Histogram) (key : Text) (n : Nat) :
    (a.merge b).add key n = a.merge (b.add key n) := by
  apply Dictionary.ext_get?
  intro k
  rw [get?_add, get?_merge, get?_merge, get?_merge, get?_add]
  by_cases hk : k = key
  · rw [if_pos hk, if_pos hk, hk]
    cases a.get? key <;> cases b.get? key <;> simp [Option.merge, Nat.add_assoc]
  · rw [if_neg hk, if_neg hk]

namespace Report

theorem countReason_merge (a b : Histogram) (o : Outcome) :
    countReason (a.merge b) o = a.merge (countReason b o) := by
  cases o with
  | passed => rfl
  | failed reason => rfl
  | skipped reason => exact a.merge_add b reason 1

/-! ### The file that is charged -/

/-- What is charged to the last of some files is charged behind all files in front. -/
theorem charge_append_of_ne_nil (counts : Counts) (files : List FileSummary)
    {more : List FileSummary} (h : more ≠ []) :
    charge counts (files ++ more) = files ++ charge counts more := by
  obtain hnil | ⟨more, last, rfl⟩ := List.eq_nil_or_concat more
  · exact absurd hnil h
  · rw [List.concat_eq_append, ← List.append_assoc, charge_append, charge_append, List.append_assoc]

/-- An outcome is one more case, so that no file is left as it was. -/
theorem charge_ofOutcome_eq_self_iff (o : Outcome) (files : List FileSummary) :
    charge (.ofOutcome o) files = files ↔ files = [] := by
  constructor
  · intro h
    obtain hnil | ⟨files, last, rfl⟩ := List.eq_nil_or_concat files
    · exact hnil
    · rw [List.concat_eq_append, charge_append] at h
      have hlast := (List.cons.inj (List.append_cancel_left h)).1
      have htotal : last.counts.total + (Counts.ofOutcome o).total = last.counts.total :=
        congrArg (·.counts.total) hlast
      have hone : (Counts.ofOutcome o).total = 1 := by cases o <;> rfl
      omega
  · rintro rfl
    rfl

theorem charge_append_iff (o : Outcome) (files more : List FileSummary) :
    files ++ charge (.ofOutcome o) more = charge (.ofOutcome o) (files ++ more) ↔
      more ≠ [] ∨ files = [] := by
  by_cases hmore : more = []
  · subst hmore
    show files ++ [] = charge (.ofOutcome o) (files ++ []) ↔ _
    rw [List.append_nil, eq_comm, charge_ofOutcome_eq_self_iff]
    simp
  · rw [charge_append_of_ne_nil _ files hmore]
    simp [hmore]

/-! ### Recording and merging -/

/-- Only the charge tells whether an outcome was recorded before merging or afterwards. -/
theorem merge_record_iff (a b : Report) (file : Path) (c : Fixture.TestCase) (o : Outcome) :
    a.merge (b.record file c o) = (a.merge b).record file c o ↔ b.files ≠ [] ∨ a.files = [] := by
  rw [← charge_append_iff o]
  simp only [merge, record, mk.injEq, Counts.add_assoc, List.append_assoc, countReason_merge,
    true_and, and_true]

/-- A report that has a file takes up outcomes by itself as it would behind another report. -/
theorem merge_foldl_record (a : Report) (file : Path) (results : List (Fixture.TestCase × Outcome))
    {b : Report} (h : b.files ≠ []) :
    a.merge (results.foldl (fun r result => r.record file result.1 result.2) b) =
      results.foldl (fun r result => r.record file result.1 result.2) (a.merge b) := by
  induction results generalizing b with
  | nil => rfl
  | cons result results ih =>
    have hfiles : (b.record file result.1 result.2).files ≠ [] := charge_ne_nil h
    rw [List.foldl_cons, List.foldl_cons, ih hfiles,
      (merge_record_iff a b file result.1 result.2).2 (.inl h)]

/-- **Reports form a monoid that recording respects**: merging is associative with the empty
report as its neutral element, and an outcome may be recorded before merging or afterwards just
when the second report has a file to charge or the first has none. -/
theorem merge_monoid_record :
    (∀ a b c : Report, (a.merge b).merge c = a.merge (b.merge c)) ∧
    (∀ a : Report, empty.merge a = a ∧ a.merge empty = a) ∧
    ∀ (a b : Report) (file : Path) (c : Fixture.TestCase) (o : Outcome),
      a.merge (b.record file c o) = (a.merge b).record file c o ↔ b.files ≠ [] ∨ a.files = [] :=
  ⟨merge_assoc, fun a => ⟨empty_merge a, merge_empty a⟩, merge_record_iff⟩

end Report
end StyleSnapshot
