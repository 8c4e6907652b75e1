import StyleSnapshot.Proofs.Comparison.Exact
import StyleSnapshot.Proofs.Stylesheet.Blocks
import StyleSnapshot.Proofs.Verification.Corpus
import StyleSnapshot.Verification.Session

/-! What the compiler has no say in.

Whether a case is skipped, and why, is known from its expectation alone
(`skipReason?_verifyCase`), so that reports on the same fixtures agree on everything that
is said about skipping (`SameSkips`), whatever compilers were asked and whatever they did
to the files. The fixtures are taken as read; this is a session if they are found as they
were when their turn comes (`run_of_undisturbed`), as with compilers that leave them
alone. Nothing else passes by default: to a compiler that is silent no case is passed but
those that ask for no output (`verifyCase_silent`). -/
namespace StyleSnapshot

/-- Why a case with an expectation is not evaluated, if it is not. -/
def Fixture.Expectation.skipReason? (policy : DuplicatePolicy) (e : Fixture.Expectation) :
    Option Text :=
  match e.demand policy with
  | .error reason => some reason
  | .ok _ => none

theorem Corpus.path_of_readFixture {tree : FileTree} {path : Path} {f : FixtureFile}
    (h : Corpus.readFixture tree path = .ok f) : f.path = path := by
  unfold Corpus.readFixture at h
  split at h
  · cases h
    rfl
  · cases h

/-! ### Cases -/

theorem Demand.skipReason?_settle (policy : DuplicatePolicy) (demand : Demand)
    (answer : Except Problem Text) : (demand.settle policy answer).skipReason? = none := by
  cases answer with
  | error problem => rfl
  | ok output =>
    cases demand <;> simp only [settle, judge] <;> split <;> rfl

namespace Session

theorem skipReason?_verifyCase (compile : Compiler) (policy : DuplicatePolicy) (tree : FileTree)
    (c : Fixture.TestCase) :
    (verifyCase compile policy tree c).1.skipReason? = c.expectation.skipReason? policy := by
  unfold verifyCase Fixture.Expectation.skipReason?
  cases c.expectation.demand policy with
  | error reason => rfl
  | ok demand => exact demand.skipReason?_settle policy _

theorem skipReason?_verifyCases (compile : Compiler) (policy : DuplicatePolicy) (tree : FileTree)
    (cases : List Fixture.TestCase) :
    (verifyCases compile policy tree cases).1.map (·.2.skipReason?) =
      cases.map (·.expectation.skipReason? policy) := by
  induction cases generalizing tree with
  | nil => rfl
  | cons c cases ih => simp only [verifyCases, List.map_cons, skipReason?_verifyCase, ih]

theorem map_fst_verifyCases (compile : Compiler) (policy : DuplicatePolicy) (tree : FileTree)
    (cases : List Fixture.TestCase) :
    (verifyCases compile policy tree cases).1.map (·.1) = cases := by
  induction cases generalizing tree with
  | nil => rfl
  | cons c cases ih => simp only [verifyCases, List.map_cons, ih]

/-- The session with one more fixture, which has been read already. -/
def addFixture (compile : Compiler) (options : RunOptions) (session : Run × FileTree)
    (f : FixtureFile) : Run × FileTree :=
  let (r, tree) := session
  let (results, tree) := verifyCases compile options.duplicates tree (selectCases options f)
  (r.followedBy (.ofOutcomes f results), tree)

/-- A file that can be read is added as the fixture that was read. -/
theorem addFile_of_ok {compile : Compiler} {options : RunOptions} {r : Run} {tree : FileTree}
    {path : Path} {f : FixtureFile} (h : Corpus.readFixture tree path = .ok f) :
    addFile compile options (r, tree) path = addFixture compile options (r, tree) f := by
  simp only [addFile, h, addFixture]

/-- Verifies fixtures one after the other. -/
def ofFixtures (compile : Compiler) (options : RunOptions) (tree : FileTree)
    (fixtures : List FixtureFile) : Run × FileTree :=
  fixtures.foldl (addFixture compile options) (⟨.empty, []⟩, tree)

/-- A compiler that leaves the fixtures at some paths as they are. -/
def Keeps (compile : Compiler) (paths : List Path) : Prop :=
  ∀ tree tokens, ∀ path ∈ paths,
    Corpus.readFixture (compile tree tokens).2 path = Corpus.readFixture tree path

theorem Keeps.verifyCase {compile : Compiler} {paths : List Path} (h : Keeps compile paths)
    (policy : DuplicatePolicy) (tree : FileTree) (c : Fixture.TestCase) :
    ∀ path ∈ paths, Corpus.readFixture (verifyCase compile policy tree c).2 path =
      Corpus.readFixture tree path := by
  unfold Session.verifyCase
  cases c.expectation.demand policy with
  | error reason => exact fun _ _ => rfl
  | ok demand => exact h tree c.tokens

theorem Keeps.verifyCases {compile : Compiler} {paths : List Path} (h : Keeps compile paths)
    (policy : DuplicatePolicy) (tree : FileTree) (cases : List Fixture.TestCase) :
    ∀ path ∈ paths, Corpus.readFixture (verifyCases compile policy tree cases).2 path =
      Corpus.readFixture tree path := by
  induction cases generalizing tree with
  | nil => exact fun _ _ => rfl
  | cons c cases ih =>
    intro path hpath
    exact (ih _ path hpath).trans (h.verifyCase policy tree c path hpath)

theorem Keeps.addFile {compile : Compiler} {paths : List Path} (h : Keeps compile paths)
    (options : RunOptions) (session : Run × FileTree) (added : Path) :
    ∀ path ∈ paths, Corpus.readFixture (addFile compile options session added).2 path =
      Corpus.readFixture session.2 path := by
  obtain ⟨r, tree⟩ := session
  simp only [Session.addFile]
  cases Corpus.readFixture tree added with
  | ok f => exact h.verifyCases options.duplicates tree (selectCases options f)
  | error e => exact fun _ _ => rfl

theorem run_concat (compile : Compiler) (options : RunOptions) (tree : FileTree)
    (paths : List Path) (path : Path) : run compile options tree (paths ++ [path]) =
      addFile compile options (run compile options tree paths) path := by
  simp only [run, List.foldl_append, List.foldl_cons, List.foldl_nil]

theorem Keeps.run {compile : Compiler} {paths : List Path} (h : Keeps compile paths)
    (options : RunOptions) (tree : FileTree) (verified : List Path) :
    ∀ path ∈ paths, Corpus.readFixture (run compile options tree verified).2 path =
      Corpus.readFixture tree path := by
  intro path hpath
  induction verified using List.reverseRecOn with
  | nil => rfl
  | append_singleton verified last ih =>
    rw [run_concat]
    exact (h.addFile options _ last path hpath).trans ih

/-- Every file is found as it was in the beginning when its turn comes. -/
def Undisturbed (compile : Compiler) (options : RunOptions) (tree : FileTree)
    (paths : List Path) : Prop :=
  ∀ before path after, paths = before ++ path :: after →
    Corpus.readFixture (run compile options tree before).2 path = Corpus.readFixture tree path

theorem Keeps.undisturbed {compile : Compiler} {paths : List Path} (h : Keeps compile paths)
    (options : RunOptions) (tree : FileTree) : Undisturbed compile options tree paths := by
  rintro before path after rfl
  exact h.run options tree before path (by simp)

/-- Where files are found as they were, they may all be read beforehand. -/
theorem run_of_undisturbed {compile : Compiler} {options : RunOptions} {tree : FileTree}
    {paths : List Path} {fixtures : List FixtureFile} (h : Undisturbed compile options tree paths)
    (hread : paths.map (Corpus.readFixture tree) = fixtures.map .ok) :
    run compile options tree paths = ofFixtures compile options tree fixtures := by
  induction paths using List.reverseRecOn generalizing fixtures with
  | nil =>
    rw [List.map_nil, eq_comm, List.map_eq_nil_iff] at hread
    rw [hread]
    rfl
  | append_singleton paths path ih =>
    rw [List.map_append, List.map_singleton] at hread
    obtain ⟨earlier, last, rfl, hearlier, hlast⟩ := List.map_eq_append_iff.1 hread.symm
    obtain ⟨f, rfl, hf⟩ := List.map_eq_singleton_iff.1 hlast
    have hpaths : run compile options tree paths = ofFixtures compile options tree earlier := by
      refine ih (fun before path' after hsplit => ?_) hearlier.symm
      exact h before path' (after ++ [path]) (by rw [hsplit, List.append_assoc, List.cons_append])
    have hpath := h paths path [] rfl
    rw [hpaths, ← hf] at hpath
    have hlast : addFile compile options (ofFixtures compile options tree earlier) path =
        addFixture compile options (ofFixtures compile options tree earlier) f := addFile_of_ok hpath
    rw [run_concat, hpaths, hlast]
    simp only [ofFixtures, List.foldl_append, List.foldl_cons, List.foldl_nil]

/-- Where the compiler leaves the fixtures as they are, they may all be read beforehand. -/
theorem run_of_keeps {compile : Compiler} (options : RunOptions) {tree : FileTree}
    {paths : List Path} {fixtures : List FixtureFile} (h : Keeps compile paths)
    (hread : paths.map (Corpus.readFixture tree) = fixtures.map .ok) :
    run compile options tree paths = ofFixtures compile options tree fixtures :=
  run_of_undisturbed (h.undisturbed options tree) hread

end Session

theorem skipReason?_verifyCase (compile : Compiler) (policy : DuplicatePolicy)
    (c : Fixture.TestCase) :
    (verifyCase compile policy c).skipReason? = c.expectation.skipReason? policy := by
  have h := Session.skipReason?_verifyCase (Session.leaving compile) policy ⟨[], []⟩ c
  rwa [Session.verifyCase_leaving] at h

/-! ### Reports -/

namespace Report

/-- What is said of a file apart from how its evaluated cases came out. -/
def fileSkips (file : FileSummary) : Path × Text × Nat × Nat :=
  (file.path, file.fingerprint, file.counts.total, file.counts.skipped)

/-- Two reports that agree on what was there and what of it was skipped. -/
structure SameSkips (a b : Report) : Prop where
  total : a.counts.total = b.counts.total
  skipped : a.counts.skipped = b.counts.skipped
  skipReasons : a.skipReasons = b.skipReasons
  files : a.files.map fileSkips = b.files.map fileSkips

namespace SameSkips
variable {a b c d : Report}

theorem refl (r : Report) : SameSkips r r := ⟨rfl, rfl, rfl, rfl⟩

theorem merge (h : SameSkips a b) (h' : SameSkips c d) : SameSkips (a.merge c) (b.merge d) where
  total := by simp only [Report.merge, Counts.add, h.total, h'.total]
  skipped := by simp only [Report.merge, Counts.add, h.skipped, h'.skipped]
  skipReasons := by simp only [Report.merge, h.skipReasons, h'.skipReasons]
  files := by simp only [Report.merge, List.map_append, h.files, h'.files]

theorem addUnreadable (h : SameSkips a b) (path : Path) :
    SameSkips (a.addUnreadable path) (b.addUnreadable path) where
  total := h.total
  skipped := h.skipped
  skipReasons := h.skipReasons
  files := h.files

end SameSkips

/-- Where the same cases of a file are skipped for the same reasons, reports agree. -/
theorem sameSkips_ofOutcomes (f : FixtureFile) {results others : List (Fixture.TestCase × Outcome)}
    (h : results.map (·.2.skipReason?) = others.map (·.2.skipReason?)) :
    SameSkips (Run.ofOutcomes f results).report (Run.ofOutcomes f others).report := by
  have hlength : (results.map (·.2)).length = (others.map (·.2)).length := by
    simpa only [List.length_map] using congrArg List.length h
  have hreasons : (results.map (·.2)).filterMap (·.skipReason?) =
      (others.map (·.2)).filterMap (·.skipReason?) := by
    have hfilter := congrArg (List.filterMap id) h
    simpa only [List.filterMap_map, Function.comp_def, id] using hfilter
  rw [Run.report_ofOutcomes, Run.report_ofOutcomes]
  constructor
  · simp only [Outcome.total_counts, hlength]
  · simp only [Outcome.skipped_counts, hreasons]
  · simp only [foldl_countReason, hreasons]
  · simp only [List.map_cons, List.map_nil, fileSkips, Run.summary, Outcome.total_counts,
      Outcome.skipped_counts, hlength, hreasons]

end Report

open Report (SameSkips)

/-! ### Runs -/

theorem Session.sameSkips_ofFixtures (compile other : Session.Compiler) (options : RunOptions)
    (tree tree' : FileTree) (fixtures : List FixtureFile) :
    SameSkips (ofFixtures compile options tree fixtures).1.report
      (ofFixtures other options tree' fixtures).1.report := by
  refine List.foldl_rel (r := fun s s' : Run × FileTree => SameSkips s.1.report s'.1.report)
    (.refl _) ?_
  intro f _ s s' h
  refine h.merge (Report.sameSkips_ofOutcomes f ?_)
  rw [skipReason?_verifyCases, skipReason?_verifyCases]

theorem Run.sameSkips_ofPaths (read : Path → Except Problem FixtureFile) (compile other : Compiler)
    (options : RunOptions) (paths : List Path) :
    SameSkips (ofPaths read compile options paths).report
      (ofPaths read other options paths).report := by
  refine List.foldl_rel (r := fun r r' : Run => SameSkips r.report r'.report) (.refl _) ?_
  intro path _ r r' h
  unfold addFile
  cases read path with
  | ok f =>
    refine h.merge (Report.sameSkips_ofOutcomes f ?_)
    simp only [List.map_map, Function.comp_def, skipReason?_verifyCase]
  | error e => exact h.addUnreadable path

/-! ### Silent compilers -/

theorem Stylesheet.parse_of_blank (policy : DuplicatePolicy) {t : Text} (h : Text.trim t = []) :
    parse policy t = empty := by
  rw [parse, ← pieces_trim, h, pieces_nil]
  rfl

theorem Comparison.not_passed_of_no_rules {expected actual : Stylesheet}
    (he : (expected.rules.map (·.selector)).Nodup) (hne : expected.rules ≠ [])
    (ha : actual.rules = []) : (ofStylesheets expected actual).passed = false := by
  rw [← Bool.not_eq_true, passed_iff he (by rw [ha]; exact List.nodup_nil), ha]
  obtain ⟨e, rest, hrules⟩ := List.exists_cons_of_ne_nil hne
  intro h
  obtain ⟨a, ha, -⟩ := h e (by rw [hrules]; exact List.mem_cons_self)
  exact List.not_mem_nil ha

/-- Blank output is what is asked for just where none is asked for. -/
theorem settle_blank (policy : DuplicatePolicy) {e : Fixture.Expectation} {demand : Demand}
    (hd : e.demand policy = .ok demand) {output : Text} (hblank : Text.trim output = []) :
    demand.settle policy (.ok output) = .passed ↔ e = .empty := by
  cases e with
  | deferred => simp [Fixture.Expectation.demand] at hd
  | empty =>
    obtain rfl : Demand.blank = demand := Except.ok.inj hd
    simp [Demand.settle, Demand.judge, hblank]
  | css expected =>
    simp only [Fixture.Expectation.demand] at hd
    split at hd
    · simp at hd
    · next hrules =>
      obtain rfl : Demand.rules _ = demand := Except.ok.inj hd
      have hfailed := Comparison.not_passed_of_no_rules (Stylesheet.nodup_selectors policy expected)
        hrules (congrArg Stylesheet.rules (Stylesheet.parse_of_blank policy hblank))
      simp [Demand.settle, Demand.judge, hfailed]

namespace Session

/-- A compiler that never fails and has blank output only. -/
def Silent (compile : Compiler) : Prop :=
  ∀ tree tokens, ∃ output, (compile tree tokens).1 = .ok output ∧ Text.trim output = []

variable {compile : Compiler}

theorem verifyCase_silent (h : Silent compile) (policy : DuplicatePolicy) (tree : FileTree)
    (c : Fixture.TestCase) :
    (verifyCase compile policy tree c).1 = .passed ↔ c.expectation = .empty := by
  unfold verifyCase
  cases hd : c.expectation.demand policy with
  | error reason =>
    have hne : c.expectation ≠ .empty := fun he => by simp [he, Fixture.Expectation.demand] at hd
    simp [hne]
  | ok demand =>
    obtain ⟨output, houtput, hblank⟩ := h tree c.tokens
    simp only [houtput, settle_blank policy hd hblank]

theorem countP_verifyCases_silent (h : Silent compile) (policy : DuplicatePolicy) (tree : FileTree)
    (cases : List Fixture.TestCase) :
    ((verifyCases compile policy tree cases).1.map (·.2)).countP (· = .passed) =
      cases.countP (·.expectation = .empty) := by
  induction cases generalizing tree with
  | nil => rfl
  | cons c cases ih =>
    simp only [verifyCases, List.map_cons, List.countP_cons, ih, decide_eq_true_eq,
      verifyCase_silent h]

theorem passed_ofFixtures_silent (h : Silent compile) (options : RunOptions) (tree : FileTree)
    (fixtures : List FixtureFile) :
    (ofFixtures compile options tree fixtures).1.report.counts.passed =
      (fixtures.flatMap (selectCases options)).countP (·.expectation = .empty) := by
  have run : ∀ (fixtures : List FixtureFile) (s : Run × FileTree),
      (fixtures.foldl (addFixture compile options) s).1.report.counts.passed =
        s.1.report.counts.passed +
          (fixtures.flatMap (selectCases options)).countP (·.expectation = .empty) := by
    intro fixtures
    induction fixtures with
    | nil => exact fun _ => rfl
    | cons f fixtures ih =>
      intro s
      have hstep : (addFixture compile options s f).1.report.counts.passed =
          s.1.report.counts.passed + (selectCases options f).countP (·.expectation = .empty) := by
        simp only [addFixture, Run.followedBy, Report.merge, Run.report_ofOutcomes, Counts.add,
          Outcome.passed_counts, countP_verifyCases_silent h]
      rw [List.foldl_cons, ih, hstep, List.flatMap_cons, List.countP_append, Nat.add_assoc]
  rw [ofFixtures, run]
  exact Nat.zero_add _

/-- **The compiler has no say in what is skipped**, and one that is silent passes the cases
that ask for no output and no others. -/
theorem skipping_independent (options : RunOptions) :
    (∀ compile other tree tree' fixtures,
      SameSkips (ofFixtures compile options tree fixtures).1.report
        (ofFixtures other options tree' fixtures).1.report) ∧
    (∀ read compile other paths,
      SameSkips (Run.ofPaths read compile options paths).report
        (Run.ofPaths read other options paths).report) ∧
    ∀ compile, Silent compile →
      (∀ tree c,
        let outcome := (verifyCase compile options.duplicates tree c).1
        (outcome = .passed ↔ c.expectation = .empty) ∧
        ∀ css, c.expectation = .css css →
          (∃ reason, outcome = .failed reason) ∨ ∃ reason, outcome = .skipped reason) ∧
      ∀ tree fixtures, (ofFixtures compile options tree fixtures).1.report.counts.passed =
        (fixtures.flatMap (selectCases options)).countP (·.expectation = .empty) := by
  refine ⟨fun compile other => sameSkips_ofFixtures compile other options,
    fun read compile other => Run.sameSkips_ofPaths read compile other options,
    fun compile h => ⟨fun tree c => ⟨verifyCase_silent h _ tree c, fun css hcss => ?_⟩,
      passed_ofFixtures_silent h options⟩⟩
  cases houtcome : (verifyCase compile options.duplicates tree c).1 with
  | passed =>
    have hempty := (verifyCase_silent h _ tree c).1 houtcome
    rw [hcss] at hempty
    cases hempty
  | failed reason => exact Or.inl ⟨reason, rfl⟩
  | skipped reason => exact Or.inr ⟨reason, rfl⟩

/-- A case that asks for no output and one that asks for a rule. -/
def twoCases : FixtureFile := ⟨['a'],
  "test('g', () => \x7b\n  expect(await run(['x'])).toEqual('')\n  expect(await run(['y'])).toMatchInlineSnapshot(`\n\".y \x7b p: 1 \x7d\"\n`)\n\x7d)\n".toList⟩

/-- Of two cases a compiler that writes blanks passes the one that asks for nothing. -/
theorem skipping_independent_blank :
    Silent (fun tree _ => (.ok " \n".toList, tree)) ∧
      (ofFixtures (fun tree _ => (.ok " \n".toList, tree)) {} ⟨[], []⟩
        [twoCases]).1.report.counts.passed = 1 := by
  have hsilent : Silent (fun tree _ => (.ok " \n".toList, tree)) := fun _ _ => ⟨_, rfl, by decide⟩
  have hempty : ([twoCases].flatMap (selectCases {})).countP (·.expectation = .empty) = 1 := by
    decide +kernel
  exact ⟨hsilent, (((skipping_independent {}).2.2 _ hsilent).2 ⟨[], []⟩ [twoCases]).trans hempty⟩

end Session
end StyleSnapshot
