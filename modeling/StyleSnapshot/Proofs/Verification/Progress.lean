import StyleSnapshot.Proofs.Verification.Skipping

/-! What a user watches is what is reported.

A run writes its progress and fills its report separately. Both can be told from what
became of the paths (`Visit`), and in the same words: the glyphs of a line are those of the
outcomes that the report counts, and the failures it lists are the cases with an `F`
(`Told`). One more visit keeps this, whatever outcomes the cases had (`Told.addVisit`), and
so does a run (`told_ofVisits`); the visits of a session are its files as it finds them,
with the cases that are selected (`Session.progress_tells_report`). -/
namespace StyleSnapshot

/-- What becomes of a path when its turn comes. -/
inductive Visit where
  | verified (f : FixtureFile) (results : List (Fixture.TestCase × Outcome))
  | unreadable (path : Path)

namespace Visit

def path : Visit → Path
  | .verified f _ => f.path
  | .unreadable path => path

/-- One character for each case, in the order of the cases. -/
def glyphs (results : List (Fixture.TestCase × Outcome)) : Text := results.map (·.2.glyph)

/-- The line that a user sees of a file. -/
def line : Visit → Text
  | .verified f results =>
    f.path ++ [' '] ++ glyphs results ++ [' '] ++
      Text.ofNat ((glyphs results).count '.') ++ " passed, ".toList ++
      Text.ofNat ((glyphs results).count 'F') ++ " failed, ".toList ++
      Text.ofNat ((glyphs results).count 's') ++ " skipped\n".toList
  | .unreadable _ => []

/-- The summary of a file by its glyphs. -/
def summary? : Visit → Option FileSummary
  | .verified f results =>
    some ⟨f.path, fingerprint f.text,
      ⟨results.length, (glyphs results).count '.', (glyphs results).count 'F',
        (glyphs results).count 's'⟩⟩
  | .unreadable _ => none

/-- The cases whose glyph is an `F`, in the order of the cases. -/
def marked : Visit → List (Path × Fixture.TestCase × Outcome)
  | .verified f results => (results.filter (·.2.glyph = 'F')).map fun result => (f.path, result)
  | .unreadable _ => []

def unreadable? : Visit → Option Path
  | .verified _ _ => none
  | .unreadable path => some path

end Visit

/-- A failure is the one of a case with an outcome. -/
structure Failure.Tells (failure : Failure) (file : Path) (c : Fixture.TestCase) (o : Outcome) :
    Prop where
  file : failure.file = file
  group : failure.group = c.group
  ordinal : failure.ordinal = c.ordinal
  line : failure.line = c.line
  tokens : failure.tokens = c.tokens
  outcome : o = .failed failure.reason

/-- The progress and the report of a run tell of the same visits. -/
structure Told (visits : List Visit) (r : Run) : Prop where
  progress : r.progress = visits.flatMap (·.line)
  files : r.report.files = visits.filterMap (·.summary?)
  failures : List.Forall₂ (fun failure case => failure.Tells case.1 case.2.1 case.2.2)
    r.report.failures (visits.flatMap (·.marked))
  unreadable : r.report.unreadable = visits.filterMap (·.unreadable?)

/-! ### One file -/

section File
variable (f : FixtureFile) (results : List (Fixture.TestCase × Outcome))

theorem Visit.counts_eq_glyphs : Outcome.counts (results.map (·.2)) =
    ⟨results.length, (glyphs results).count '.', (glyphs results).count 'F',
      (glyphs results).count 's'⟩ := by
  induction results with
  | nil => rfl
  | cons result results ih =>
    obtain ⟨c, o⟩ := result
    rw [List.map_cons, Outcome.counts_cons, ih]
    cases o <;> simp [Counts.add, Counts.ofOutcome, glyphs, Outcome.glyph, Nat.add_comm]

theorem Visit.summary?_verified :
    (Visit.verified f results).summary? = some (Run.summary f results) := by
  rw [summary?, Run.summary, counts_eq_glyphs]

theorem Run.progress_ofOutcomes :
    (Run.ofOutcomes f results).progress = (Visit.verified f results).line := by
  have hcases : (results.map fun result => Event.caseFinished result.2).flatMap (·.toText) =
      Visit.glyphs results := by
    rw [List.flatMap_map, Visit.glyphs, List.map_eq_flatMap]
    rfl
  have hfile : (Run.ofOutcomes f results).report.files = [Run.summary f results] := by
    rw [Run.report_ofOutcomes]
  have hevents : (Run.ofOutcomes f results).events =
      .fileStarted f.path :: (results.map fun result => .caseFinished result.2) ++
        [.fileFinished (Run.summary f results)] := by
    show _ ++ ((Run.ofOutcomes f results).report.files.getLast?.map Event.fileFinished).toList = _
    rw [hfile]
    rfl
  rw [Run.progress, hevents, List.flatMap_append, List.flatMap_cons, hcases]
  simp only [List.flatMap_singleton, Event.toText, Run.summary, Visit.counts_eq_glyphs,
    Visit.line, List.append_assoc]

theorem Run.forall₂_failures : List.Forall₂
    (fun failure case => Failure.Tells failure case.1 case.2.1 case.2.2)
    (Run.failures f results) (Visit.verified f results).marked := by
  unfold Run.failures Visit.marked
  induction results with
  | nil => exact .nil
  | cons result results ih =>
    obtain ⟨c, o⟩ := result
    cases o with
    | passed => exact ih
    | skipped reason => exact ih
    | failed reason => exact .cons ⟨rfl, rfl, rfl, rfl, rfl, rfl⟩ ih

end File

/-! ### Many files -/

namespace Run

/-- The run with one more visit. -/
def addVisit (r : Run) : Visit → Run
  | .verified f results => r.followedBy (.ofOutcomes f results)
  | .unreadable path => r.addUnreadable path

/-- The run that consists of some visits. -/
def ofVisits (visits : List Visit) : Run := visits.foldl addVisit ⟨.empty, []⟩

theorem progress_followedBy (r more : Run) :
    (r.followedBy more).progress = r.progress ++ more.progress := by
  simp only [progress, followedBy, List.flatMap_append]

end Run

theorem Told.addVisit {visits : List Visit} {r : Run} (h : Told visits r) (v : Visit) :
    Told (visits ++ [v]) (r.addVisit v) := by
  cases v with
  | verified f results =>
    have hreport := Run.report_ofOutcomes f results
    constructor
    · rw [Run.addVisit, Run.progress_followedBy, h.progress, Run.progress_ofOutcomes]
      simp
    · simp only [Run.addVisit, Run.followedBy, Report.merge, hreport, h.files,
        List.filterMap_append, List.filterMap_cons, List.filterMap_nil, Visit.summary?_verified]
    · simp only [Run.addVisit, Run.followedBy, Report.merge, hreport, List.flatMap_append,
        List.flatMap_singleton]
      exact List.rel_append h.failures (Run.forall₂_failures f results)
    · simp only [Run.addVisit, Run.followedBy, Report.merge, hreport, h.unreadable,
        List.filterMap_append, List.filterMap_cons, List.filterMap_nil, Visit.unreadable?]
  | unreadable path =>
    constructor
    · rw [List.flatMap_append, List.flatMap_singleton, Visit.line, List.append_nil, ← h.progress]
      rfl
    · rw [List.filterMap_append, ← h.files]
      exact (List.append_nil _).symm
    · rw [List.flatMap_append, List.flatMap_singleton, Visit.marked, List.append_nil]
      exact h.failures
    · rw [List.filterMap_append, ← h.unreadable]
      rfl

/-- Whatever becomes of the paths, progress and report tell the same. -/
theorem told_ofVisits (visits : List Visit) : Told visits (.ofVisits visits) := by
  induction visits using List.reverseRecOn with
  | nil => exact ⟨rfl, rfl, .nil, rfl⟩
  | append_singleton visits v ih =>
    rw [Run.ofVisits, List.foldl_append, List.foldl_cons, List.foldl_nil]
    exact ih.addVisit v

/-! ### Sessions -/

namespace Session

/-- What becomes of a path, and of the files. -/
def visit (compile : Compiler) (options : RunOptions) (tree : FileTree) (path : Path) :
    Visit × FileTree :=
  match Corpus.readFixture tree path with
  | .ok f =>
    let (results, tree) := verifyCases compile options.duplicates tree (selectCases options f)
    (.verified f results, tree)
  | .error _ => (.unreadable path, tree)

/-- What becomes of paths one after the other. -/
def visits (compile : Compiler) (options : RunOptions) : FileTree → List Path → List Visit
  | _, [] => []
  | tree, path :: more =>
    let (v, tree) := visit compile options tree path
    v :: visits compile options tree more

variable (compile : Compiler) (options : RunOptions)

theorem addFile_eq_addVisit (r : Run) (tree : FileTree) (path : Path) :
    addFile compile options (r, tree) path =
      (r.addVisit (visit compile options tree path).1, (visit compile options tree path).2) := by
  simp only [addFile, visit]
  cases Corpus.readFixture tree path <;> rfl

theorem run_eq_ofVisits (tree : FileTree) (paths : List Path) :
    (run compile options tree paths).1 = .ofVisits (visits compile options tree paths) := by
  unfold run Run.ofVisits
  generalize (⟨.empty, []⟩ : Run) = r
  induction paths generalizing r tree with
  | nil => rfl
  | cons path paths ih =>
    rw [List.foldl_cons, addFile_eq_addVisit, ih]
    rfl

theorem path_visit (tree : FileTree) (path : Path) :
    (visit compile options tree path).1.path = path := by
  unfold visit
  cases h : Corpus.readFixture tree path with
  | ok f => exact Corpus.path_of_readFixture h
  | error e => rfl

theorem map_path_visits (tree : FileTree) (paths : List Path) :
    (visits compile options tree paths).map (·.path) = paths := by
  induction paths generalizing tree with
  | nil => rfl
  | cons path paths ih => rw [visits, List.map_cons, path_visit, ih]

/-- A file that was verified has a result for each selected case, in the order of the cases. -/
theorem selectCases_of_mem_visits {tree : FileTree} {paths : List Path} {f : FixtureFile}
    {results : List (Fixture.TestCase × Outcome)}
    (h : .verified f results ∈ visits compile options tree paths) :
    results.map (·.1) = selectCases options f := by
  induction paths generalizing tree with
  | nil => cases h
  | cons path paths ih =>
    rw [visits, List.mem_cons] at h
    rcases h with h | h
    · unfold visit at h
      cases hread : Corpus.readFixture tree path with
      | ok g =>
        rw [hread] at h
        obtain ⟨rfl, rfl⟩ := Visit.verified.inj h
        exact map_fst_verifyCases compile options.duplicates tree _
      | error e =>
        rw [hread] at h
        cases h
    · exact ih h

/-- **Progress and report tell the same story**, file by file in the order of the paths and
case by case in the order of the text, whatever the compiler answers and whatever it does
to the files. -/
theorem progress_tells_report (tree : FileTree) (paths : List Path) :
    Told (visits compile options tree paths) (run compile options tree paths).1 ∧
      (visits compile options tree paths).map (·.path) = paths ∧
      ∀ f results, .verified f results ∈ visits compile options tree paths →
        results.map (·.1) = selectCases options f := by
  rw [run_eq_ofVisits]
  exact ⟨told_ofVisits _, map_path_visits compile options tree paths,
    fun _ _ => selectCases_of_mem_visits compile options⟩

end Session
end StyleSnapshot
