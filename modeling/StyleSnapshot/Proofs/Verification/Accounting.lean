import StyleSnapshot.Proofs.Report.Merge
import StyleSnapshot.Verification.Session

/-! The books of a report.

A report says the same thing several times: in its counts, in the counts of its files, in
its list of failures and in its reasons for skipping. `Accounts` says how these agree, and
each operation on reports keeps it (`Accounts.record`, `Accounts.merge`). How a report came
about is a `History`; only recording an outcome on a report without a file leaves a case
that no file is charged with, and a run never does that (`charged_ofOutcomes`). -/
namespace StyleSnapshot

namespace Counts

/-- Every case is counted under one outcome. -/
def Consistent (c : Counts) : Prop := c.total = c.passed + c.failed + c.skipped

/-- No count of the part exceeds that of the whole. -/
structure Within (part whole : Counts) : Prop where
  total : part.total ≤ whole.total
  passed : part.passed ≤ whole.passed
  failed : part.failed ≤ whole.failed
  skipped : part.skipped ≤ whole.skipped

theorem consistent_ofOutcome (o : Outcome) : (ofOutcome o).Consistent := by
  cases o <;> rfl

theorem Consistent.add {a b : Counts} (ha : a.Consistent) (hb : b.Consistent) :
    (a.add b).Consistent := by
  simp only [Consistent, Counts.add] at ha hb ⊢
  omega

theorem Within.add {a b c d : Counts} (h : Within a b) (h' : Within c d) :
    Within (a.add c) (b.add d) where
  total := Nat.add_le_add h.total h'.total
  passed := Nat.add_le_add h.passed h'.passed
  failed := Nat.add_le_add h.failed h'.failed
  skipped := Nat.add_le_add h.skipped h'.skipped

theorem Within.refl (c : Counts) : Within c c := ⟨Nat.le_refl _, Nat.le_refl _, Nat.le_refl _, Nat.le_refl _⟩

theorem zero_within (c : Counts) : Within zero c :=
  ⟨Nat.zero_le _, Nat.zero_le _, Nat.zero_le _, Nat.zero_le _⟩

end Counts

namespace Report

/-- What the files of a report are charged with together. -/
def charged (files : List FileSummary) : Counts := .sum (files.map (·.counts))

/-- What a report says in several places agrees. -/
structure Accounts (r : Report) : Prop where
  counts : r.counts.Consistent
  failures : r.failures.length = r.counts.failed
  reasons : r.skipReasons.total = r.counts.skipped
  /-- No reason is listed that no case was skipped for. -/
  positive : r.skipReasons.Positive
  summaries : ∀ file ∈ r.files, file.counts.Consistent
  charged : (charged r.files).Within r.counts

/-! ### Charging files -/

theorem charged_append (files more : List FileSummary) :
    charged (files ++ more) = (charged files).add (charged more) := by
  rw [charged, List.map_append, Counts.sum_append, charged, charged]

/-- The files are charged with what is charged to the last of them, if there is one. -/
theorem charged_charge (c : Counts) (files : List FileSummary) :
    charged (charge c files) = if files = [] then .zero else (charged files).add c := by
  rcases List.eq_nil_or_concat files with rfl | ⟨files, last, rfl⟩
  · rfl
  · rw [List.concat_eq_append, if_neg (by simp), charge_append, charged_append, charged_append,
      Counts.add_assoc]
    rfl

theorem consistent_charge {c : Counts} (hc : c.Consistent) {files : List FileSummary}
    (h : ∀ file ∈ files, file.counts.Consistent) :
    ∀ file ∈ charge c files, file.counts.Consistent := by
  rcases List.eq_nil_or_concat files with rfl | ⟨files, last, rfl⟩
  · exact h
  · intro file hfile
    rw [List.concat_eq_append, charge_append, List.mem_append, List.mem_singleton] at hfile
    rcases hfile with hfile | rfl
    · exact h file (by simp [hfile])
    · exact (h last (by simp)).add hc

/-! ### Operations -/

theorem accounts_empty : Accounts empty where
  counts := rfl
  failures := rfl
  reasons := rfl
  positive := by
    intro key n h
    simp [empty] at h
  summaries := by simp [empty]
  charged := .refl _

theorem accounts_ofFile (f : FixtureFile) : Accounts (ofFile f) where
  counts := rfl
  failures := rfl
  reasons := rfl
  positive := accounts_empty.positive
  summaries := by simp [ofFile, Counts.Consistent, Counts.zero]
  charged := .refl _

theorem Accounts.record {r : Report} (h : Accounts r) (file : Path) (c : Fixture.TestCase)
    (o : Outcome) : Accounts (r.record file c o) where
  counts := h.counts.add (Counts.consistent_ofOutcome o)
  failures := by
    have hlen := h.failures
    cases o <;> simp [Report.record, failure?, Counts.add, Counts.ofOutcome, hlen]
  reasons := by
    have htotal := h.reasons
    cases o <;>
      simp [Report.record, countReason, Counts.add, Counts.ofOutcome, Histogram.total_add, htotal]
  positive := by
    cases o with
    | passed => exact h.positive
    | failed reason => exact h.positive
    | skipped reason => exact h.positive.add reason (Nat.le_refl 1)
  summaries := consistent_charge (Counts.consistent_ofOutcome o) h.summaries
  charged := by
    simp only [Report.record, charged_charge]
    split
    · exact Counts.zero_within _
    · exact h.charged.add (.refl _)

theorem Accounts.merge {a b : Report} (ha : Accounts a) (hb : Accounts b) :
    Accounts (a.merge b) where
  counts := ha.counts.add hb.counts
  failures := by
    rw [Report.merge, List.length_append, ha.failures, hb.failures]
    rfl
  reasons := by
    rw [Report.merge, Histogram.total_merge, ha.reasons, hb.reasons]
    rfl
  positive := ha.positive.merge hb.positive
  summaries := by
    intro file hfile
    rcases List.mem_append.1 hfile with hfile | hfile
    · exact ha.summaries file hfile
    · exact hb.summaries file hfile
  charged := by
    rw [Report.merge, charged_append]
    exact ha.charged.add hb.charged

theorem Accounts.addUnreadable {r : Report} (h : Accounts r) (path : Path) :
    Accounts (r.addUnreadable path) where
  counts := h.counts
  failures := h.failures
  reasons := h.reasons
  positive := h.positive
  summaries := h.summaries
  charged := h.charged

/-! ### Histories -/

/-- How a report came about. -/
inductive History where
  | empty
  | ofFile (f : FixtureFile)
  | record (file : Path) (before : History) (c : Fixture.TestCase) (o : Outcome)
  | merge (a b : History)
  | addUnreadable (before : History) (path : Path)

namespace History

def report : History → Report
  | .empty => .empty
  | .ofFile f => .ofFile f
  | .record file before c o => before.report.record file c o
  | .merge a b => a.report.merge b.report
  | .addUnreadable before path => before.report.addUnreadable path

/-- Every outcome was recorded on a report that had a file to charge. -/
def Charged : History → Prop
  | .empty | .ofFile _ => True
  | .record _ before _ _ => before.Charged ∧ before.report.files ≠ []
  | .merge a b => a.Charged ∧ b.Charged
  | .addUnreadable before _ => before.Charged

theorem accounts (h : History) : Accounts h.report := by
  induction h with
  | empty => exact accounts_empty
  | ofFile f => exact accounts_ofFile f
  | record file before c o ih => exact ih.record file c o
  | merge a b iha ihb => exact iha.merge ihb
  | addUnreadable before path ih => exact ih.addUnreadable path

/-- Where every outcome was charged to a file, the files are charged with all of them. -/
theorem charged_report {h : History} (hc : h.Charged) : charged h.report.files = h.report.counts := by
  induction h with
  | empty => rfl
  | ofFile f => rfl
  | record file before c o ih =>
    rw [report, Report.record, charged_charge, if_neg hc.2, ih hc.1]
  | merge a b iha ihb =>
    rw [report, Report.merge, charged_append, iha hc.1, ihb hc.2]
  | addUnreadable before path ih => exact ih hc

end History

/-! ### Runs -/

/-- A report whose outcomes were all charged to files. -/
def IsCharged (r : Report) : Prop := ∃ h : History, h.Charged ∧ h.report = r

theorem isCharged_empty : empty.IsCharged := ⟨.empty, trivial, rfl⟩

theorem IsCharged.record {r : Report} (hr : r.IsCharged) (hf : r.files ≠ []) (file : Path)
    (c : Fixture.TestCase) (o : Outcome) : (r.record file c o).IsCharged := by
  obtain ⟨h, hh, rfl⟩ := hr
  exact ⟨.record file h c o, ⟨hh, hf⟩, rfl⟩

theorem IsCharged.merge {a b : Report} (ha : a.IsCharged) (hb : b.IsCharged) :
    (a.merge b).IsCharged := by
  obtain ⟨h, hh, rfl⟩ := ha
  obtain ⟨h', hh', rfl⟩ := hb
  exact ⟨.merge h h', ⟨hh, hh'⟩, rfl⟩

theorem IsCharged.addUnreadable {r : Report} (hr : r.IsCharged) (path : Path) :
    (r.addUnreadable path).IsCharged := by
  obtain ⟨h, hh, rfl⟩ := hr
  exact ⟨.addUnreadable h path, hh, rfl⟩

/-- Whatever outcomes the cases of a file have, they are charged to the file. -/
theorem isCharged_ofOutcomes (f : FixtureFile) (results : List (Fixture.TestCase × Outcome)) :
    (Run.ofOutcomes f results).report.IsCharged := by
  -- Recording neither adds nor removes a file, so there is one to charge all along.
  have hrun : (Run.ofOutcomes f results).report.IsCharged ∧
      (Run.ofOutcomes f results).report.files ≠ [] := by
    refine List.foldlRecOn (motive := fun r : Report => r.IsCharged ∧ r.files ≠ []) results _
      ⟨⟨.ofFile f, trivial, rfl⟩, List.cons_ne_nil _ _⟩ ?_
    intro r hr result _
    exact ⟨hr.1.record hr.2 f.path result.1 result.2, charge_ne_nil hr.2⟩
  exact hrun.1

theorem isCharged_ofPaths (read : Path → Except Problem FixtureFile) (compile : Compiler)
    (options : RunOptions) (paths : List Path) :
    (Run.ofPaths read compile options paths).report.IsCharged := by
  refine List.foldlRecOn (motive := fun r : Run => r.report.IsCharged) paths _ isCharged_empty ?_
  intro r hr path _
  unfold Run.addFile
  cases read path with
  | ok f => exact hr.merge (isCharged_ofOutcomes f _)
  | error e => exact hr.addUnreadable path

theorem isCharged_session (compile : Session.Compiler) (options : RunOptions) (tree : FileTree)
    (paths : List Path) : (Session.run compile options tree paths).1.report.IsCharged := by
  refine List.foldlRecOn (motive := fun session : Run × FileTree => session.1.report.IsCharged)
    paths _ isCharged_empty ?_
  rintro ⟨r, tree⟩ hr path _
  simp only [Session.addFile]
  cases Corpus.readFixture tree path with
  | ok f => exact hr.merge (isCharged_ofOutcomes f _)
  | error e => exact hr.addUnreadable path

/-- **The books of a report agree, however it came about**, and its files are charged with
every case of a run. -/
theorem accounts_of_history :
    (∀ h : History, Accounts h.report ∧ (h.Charged → charged h.report.files = h.report.counts)) ∧
    (∀ f results, (Run.ofOutcomes f results).report.IsCharged) ∧
    (∀ read compile options paths, (Run.ofPaths read compile options paths).report.IsCharged) ∧
    ∀ compile options tree paths,
      (Session.run compile options tree paths).1.report.IsCharged :=
  ⟨fun h => ⟨h.accounts, History.charged_report⟩, isCharged_ofOutcomes, isCharged_ofPaths,
    isCharged_session⟩

/-- A failure of one file and a case of another one that was skipped, with an unreadable path. -/
theorem accounts_of_two_files :
    let c : Fixture.TestCase := ⟨['g'], 0, 1, [['x']], .empty⟩
    let h : History := .addUnreadable
      (.merge (.record ['a'] (.ofFile ⟨['a'], []⟩) c (.failed (.unexpectedOutput ['y'])))
        (.record ['b'] (.ofFile ⟨['b'], []⟩) c (.skipped ['r']))) ['c']
    h.Charged ∧ charged h.report.files = h.report.counts ∧ h.report.counts = ⟨2, 0, 1, 1⟩ := by
  intro c h
  have hcharged : h.Charged := ⟨⟨trivial, List.cons_ne_nil _ _⟩, trivial, List.cons_ne_nil _ _⟩
  exact ⟨hcharged, (accounts_of_history.1 h).2 hcharged, rfl⟩

end Report
end StyleSnapshot
