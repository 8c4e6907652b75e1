import StyleSnapshot.Proofs.Report.Merge
import StyleSnapshot.Verification.Run

/-! Verifying files, one after the other.

What a run reports of a file depends on that file alone (`ofPath`), and the report on many
files merges what is reported of each of them (`report_ofPaths`). `report_compositional`
draws the consequences: a run may be cut in two anywhere, it lists the files in their
order, each with its failures in the order of its cases, and the order of the files shows
in the order of these lists only. -/
namespace StyleSnapshot

open Report (Rearranged mergeAll)

namespace Run

/-! ### One file -/

/-- The selected cases of a file with their outcomes. -/
def results (compile : Compiler) (options : RunOptions) (f : FixtureFile) :
    List (Fixture.TestCase × Outcome) :=
  (selectCases options f).map fun c => (c, verifyCase compile options.duplicates c)

/-- What is reported of a file whose cases had some outcomes. -/
def summary (f : FixtureFile) (results : List (Fixture.TestCase × Outcome)) : FileSummary :=
  ⟨f.path, fingerprint f.text, Outcome.counts (results.map (·.2))⟩

/-- The failures of a file in the order of its cases. -/
def failures (f : FixtureFile) (results : List (Fixture.TestCase × Outcome)) : List Failure :=
  results.filterMap fun result => Report.failure? f.path result.1 result.2

theorem report_ofOutcomes (f : FixtureFile) (results : List (Fixture.TestCase × Outcome)) :
    (ofOutcomes f results).report =
      { counts := Outcome.counts (results.map (·.2))
        files := [summary f results]
        failures := failures f results
        skipReasons := (results.map (·.2)).foldl Report.countReason ∅
        unreadable := [] } := by
  have h := Report.foldl_record f.path results (Report.ofFile f)
  simp only [Report.ofFile, Report.empty, Report.charge, Counts.zero_add, List.nil_append] at h
  exact h

section Paths
variable (read : Path → Except Problem FixtureFile) (compile : Compiler) (options : RunOptions)

/-- The run of a single path. -/
def ofPath (path : Path) : Run := addFile read compile options ⟨.empty, []⟩ path

/-- The files of some paths that can be read. -/
def readable (paths : List Path) : List FixtureFile := paths.filterMap fun path => (read path).toOption

variable {read compile options}

theorem report_ofPath_ok {path : Path} {f : FixtureFile} (h : read path = .ok f) :
    (ofPath read compile options path).report = (ofOutcomes f (results compile options f)).report := by
  simp only [ofPath, addFile, h, followedBy, Report.empty_merge]
  rfl

theorem report_ofPath_error {path : Path} {e : Problem} (h : read path = .error e) :
    (ofPath read compile options path).report = Report.empty.addUnreadable path := by
  simp only [ofPath, addFile, h, addUnreadable]

/-- One more file is reported on as it would be alone. -/
theorem report_addFile (r : Run) (path : Path) :
    (addFile read compile options r path).report =
      r.report.merge (ofPath read compile options path).report := by
  cases h : read path with
  | ok f =>
    rw [report_ofPath_ok h]
    simp only [addFile, h]
    rfl
  | error e =>
    rw [report_ofPath_error h]
    simp only [addFile, h, addUnreadable, Report.addUnreadable, Report.merge, Report.empty,
      Counts.add_zero, Histogram.merge_empty, List.append_nil, List.nil_append]

/-! ### Many files -/

theorem report_foldl_addFile (r : Run) (paths : List Path) :
    (paths.foldl (addFile read compile options) r).report =
      r.report.merge (mergeAll (paths.map fun path => (ofPath read compile options path).report)) := by
  induction paths generalizing r with
  | nil => exact (Report.merge_empty _).symm
  | cons path paths ih =>
    rw [List.foldl_cons, ih, report_addFile, Report.merge_assoc]
    rfl

variable (read compile options) in
/-- The report on files merges the reports on each of them. -/
theorem report_ofPaths (paths : List Path) : (ofPaths read compile options paths).report =
    mergeAll (paths.map fun path => (ofPath read compile options path).report) := by
  rw [ofPaths, report_foldl_addFile, Report.empty_merge]

variable (read compile options) in
/-- The lists of a report on files, file by file. -/
structure Lists (paths : List Path) (r : Report) : Prop where
  files : r.files = (readable read paths).map fun f => summary f (results compile options f)
  /-- The failures of a file stand together, in the order of its cases. -/
  failures : r.failures =
    (readable read paths).flatMap fun f => failures f (results compile options f)
  unreadable : r.unreadable = paths.filter fun path => (read path).toOption.isNone

variable (read compile options) in
theorem lists_ofPaths (paths : List Path) :
    Lists read compile options paths (ofPaths read compile options paths).report := by
  rw [report_ofPaths]
  induction paths with
  | nil => exact ⟨rfl, rfl, rfl⟩
  | cons path paths ih =>
    rw [List.map_cons, mergeAll, List.foldr_cons, ← mergeAll]
    cases h : read path with
    | ok f =>
      rw [report_ofPath_ok h, report_ofOutcomes]
      have hreadable : readable read (path :: paths) = f :: readable read paths := by
        simp only [readable, List.filterMap_cons, h, Except.toOption]
      constructor
      · rw [hreadable, List.map_cons, ← ih.files]
        rfl
      · rw [hreadable, List.flatMap_cons, ← ih.failures]
        rfl
      · rw [List.filter_cons, h, ← ih.unreadable]
        rfl
    | error e =>
      rw [report_ofPath_error h]
      have hreadable : readable read (path :: paths) = readable read paths := by
        simp only [readable, List.filterMap_cons, h, Except.toOption]
      constructor
      · rw [hreadable, ← ih.files]
        rfl
      · rw [hreadable, ← ih.failures]
        rfl
      · rw [List.filter_cons, h, ← ih.unreadable]
        rfl

variable (read compile options) in
/-- **A run over files is composed of runs over parts of them.** It reports file by file in
the order of the files, and nothing but this order depends on the order of the files. -/
theorem report_compositional :
    (∀ paths more, (ofPaths read compile options (paths ++ more)).report =
      (ofPaths read compile options paths).report.merge
        (ofPaths read compile options more).report) ∧
    (∀ paths, Lists read compile options paths (ofPaths read compile options paths).report) ∧
    ∀ paths others, paths.Perm others →
      Rearranged (ofPaths read compile options paths).report
        (ofPaths read compile options others).report := by
  refine ⟨fun paths more => ?_, lists_ofPaths read compile options, fun paths others h => ?_⟩
  · rw [report_ofPaths, List.map_append, Report.mergeAll_append, ← report_ofPaths, ← report_ofPaths]
  · rw [report_ofPaths, report_ofPaths]
    exact Report.mergeAll_perm (h.map _)

end Paths

/-- A file with one case, which asks for no output. -/
def blankFixture (path : Path) : FixtureFile :=
  ⟨path, "test('g', async () => \x7b\n  expect(await run(['x'])).toEqual('')\n\x7d)\n".toList⟩

/-- Two files with a failing case and a path that cannot be read, in another order. -/
theorem report_compositional_rotated :
    let read : Path → Except Problem FixtureFile := fun path =>
      if path = ['c'] then .error (.unreadable path []) else .ok (blankFixture path)
    let report := fun paths => (ofPaths read (fun tokens => .ok tokens.flatten) {} paths).report
    [['a'], ['b'], ['c']].Perm [['b'], ['c'], ['a']] ∧
      Rearranged (report [['a'], ['b'], ['c']]) (report [['b'], ['c'], ['a']]) ∧
      (report [['a'], ['b'], ['c']]).failures.map (·.file) = [['a'], ['b']] := by
  intro read report
  have hperm : [['a'], ['b'], ['c']].Perm [['b'], ['c'], ['a']] := by decide
  exact ⟨hperm, (report_compositional read (fun tokens => .ok tokens.flatten) {}).2.2 _ _ hperm,
    by decide +kernel⟩

end Run
end StyleSnapshot
