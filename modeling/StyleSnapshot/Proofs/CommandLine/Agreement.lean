import StyleSnapshot.CommandLine.Extract
import StyleSnapshot.CommandLine.Verify
import StyleSnapshot.Proofs.Corpus
import StyleSnapshot.Proofs.Verification.Skipping
import StyleSnapshot.Verification.ShellSystem

/-! Both commands see the same cases.

To list a corpus every fixture is read beforehand. To verify one, a fixture is read when its
turn comes, after the compiler has been asked about the cases before it. What selects the
cases is the same for both (`runOptions_of_alike`), so a list and a report agree on a
fixture (`agree_ofOutcomes`), and from there on any number of fixtures (`Agree.merge`). They
agree on the corpus, whatever compiler the command becomes, if it leaves the fixtures alone
until their turn has come (`verify_agrees`), and not otherwise (`emptied_fixture_disagrees`). -/
namespace StyleSnapshot.CommandLine

open Corpus (path_of_readFixture)
open Session (Undisturbed verifyCases addFixture ofFixtures map_fst_verifyCases)
open Extraction (countLabel)

/-! ### Commands that succeed -/

/-- A sequence of two steps succeeds if each of them does. -/
theorem bind_eq_ok {ε α β : Type} {first : Except ε α} {second : α → Except ε β} {b : β} :
    first >>= second = .ok b ↔ ∃ a, first = .ok a ∧ second a = .ok b := by
  constructor
  · intro h
    cases hfirst : first with
    | error e =>
      rw [hfirst] at h
      cases h
    | ok a =>
      rw [hfirst] at h
      exact ⟨a, rfl, h⟩
  · rintro ⟨a, rfl, h⟩
    exact h

/-- Reading every path and keeping something of each file. -/
theorem mapM_map_eq_ok {ε α β γ : Type} {read : α → Except ε β} {g : β → γ} {xs : List α}
    {ys : List γ} : (xs.mapM fun x => (read x).map g) = .ok ys ↔
      ∃ zs : List β, xs.map read = zs.map .ok ∧ ys = zs.map g := by
  induction xs generalizing ys with
  | nil => simp [pure, Except.pure, eq_comm]
  | cons x xs ih =>
    rw [List.mapM_cons, bind_eq_ok]
    constructor
    · rintro ⟨y, hy, h⟩
      obtain ⟨more, hmore, heq⟩ := bind_eq_ok.1 h
      obtain rfl := Except.ok.inj heq
      obtain ⟨zs, hzs, rfl⟩ := ih.1 hmore
      cases hx : read x with
      | error e => simp [hx, Except.map] at hy
      | ok z =>
        rw [hx] at hy
        obtain rfl := Except.ok.inj hy
        exact ⟨z :: zs, by rw [List.map_cons, List.map_cons, hx, hzs], rfl⟩
    · rintro ⟨zs, hzs, rfl⟩
      obtain ⟨z, more, rfl, hx, hmore⟩ := List.map_eq_cons_iff.1 hzs.symm
      refine ⟨g z, by rw [← hx]; rfl, bind_eq_ok.2 ⟨more.map g, ih.2 ⟨more, hmore.symm, rfl⟩, rfl⟩⟩

theorem extract_eq_ok_iff {tree : FileTree} {a : ExtractArguments} {e : Extraction} :
    extract tree a = .ok e ↔ ∃ config, Config.load tree a.corpus.config = .ok config ∧
      let settings := Settings.resolve config a.corpus.overrides
      ∃ options, settings.runOptions = .ok options ∧
      ∃ paths, Corpus.discover tree settings.fixtureDirectory settings.fixtureGlob = .ok paths ∧
      ∃ fixtures : List FixtureFile, paths.map (Corpus.readFixture tree) = fixtures.map .ok ∧
        e = ⟨fixtures.map (extractFile options)⟩ := by
  simp only [extract, bind_eq_ok, mapM_map_eq_ok]
  constructor
  · rintro ⟨config, hconfig, options, hoptions, paths, hpaths, files, ⟨fixtures, hread, rfl⟩, he⟩
    obtain rfl := Except.ok.inj he
    exact ⟨config, hconfig, options, hoptions, paths, hpaths, fixtures, hread, rfl⟩
  · rintro ⟨config, hconfig, options, hoptions, paths, hpaths, fixtures, hread, rfl⟩
    exact ⟨config, hconfig, options, hoptions, paths, hpaths, _, ⟨fixtures, hread, rfl⟩, rfl⟩

/-- The settings of a verification. -/
def verifySettings (tree : FileTree) (a : VerifyArguments) : Except Problem Settings := do
  let compiler ← commandOf a
  let config ← Config.load tree a.corpus.config
  return Settings.resolve config
    { a.corpus.overrides with
      failureLimit := a.failureLimit
      duplicates := a.duplicates
      compiler := compiler }

/-- A verification with settings that name a compiler and a corpus. -/
theorem verify_of_settings (launch : Launcher) {tree : FileTree} {a : VerifyArguments}
    {settings : Settings} {options : RunOptions} {command : Command} {paths : List Path}
    (hsettings : verifySettings tree a = .ok settings)
    (hoptions : settings.runOptions = .ok options) (hcommand : settings.compiler = some command)
    (hpaths : Corpus.discover tree settings.fixtureDirectory settings.fixtureGlob = .ok paths) :
    verify launch tree a = .ok ⟨command.program,
      (Session.run (launch command) options tree paths).1, settings.failureLimit⟩ := by
  obtain ⟨compiler, hcompiler, h⟩ := bind_eq_ok.1 hsettings
  obtain ⟨config, hconfig, heq⟩ := bind_eq_ok.1 h
  obtain rfl := Except.ok.inj heq
  simp only [verify, bind_eq_ok]
  refine ⟨compiler, hcompiler, config, hconfig, options, hoptions, ?_⟩
  rw [hcommand]
  exact bind_eq_ok.2 ⟨paths, hpaths, rfl⟩

/-! ### Agreement -/

/-- What tells a case from the others of a corpus, and what the compiler is asked. -/
abbrev Place := Path × Text × Nat × Nat × List Text

def placeOf (file : Path) (c : Fixture.TestCase) : Place :=
  (file, c.group, c.ordinal, c.line, c.tokens)

def placeOfFailure (f : Failure) : Place := (f.file, f.group, f.ordinal, f.line, f.tokens)

namespace Extraction

/-- The listed cases that are evaluated, at least if they have rules. -/
def evaluable (e : Extraction) : List Place :=
  e.files.flatMap fun f => (f.cases.filter (·.expectation ≠ .deferred)).map (placeOf f.path)

def append (e more : Extraction) : Extraction := ⟨e.files ++ more.files⟩

end Extraction

/-- The list of the cases and the report on them agree. -/
structure Agree (e : Extraction) (r : Report) : Prop where
  /-- The same files in the same order, with as many cases. -/
  files : r.files.map (fun f => (f.path, f.fingerprint, f.counts.total)) =
    e.files.map fun f => (f.path, f.fingerprint, f.cases.length)
  unreadable : r.unreadable = []
  total : r.counts.total = e.summary.cases
  skipped : e.summary.deferred ≤ r.counts.skipped
  /-- The failures are some of the listed cases, in their order. -/
  failures : (r.failures.map placeOfFailure).Sublist e.evaluable

theorem agree_empty : Agree ⟨[]⟩ .empty := ⟨rfl, rfl, rfl, Nat.le_refl 0, .slnil⟩

theorem Agree.merge {e more : Extraction} {r r' : Report} (h : Agree e r) (h' : Agree more r') :
    Agree (e.append more) (r.merge r') where
  files := by simp only [Report.merge, Extraction.append, List.map_append, h.files, h'.files]
  unreadable := by simp only [Report.merge, h.unreadable, h'.unreadable, List.append_nil]
  total := by
    have htotal := h.total
    have htotal' := h'.total
    simp only [Extraction.summary, Extraction.cases] at htotal htotal'
    simp only [Report.merge, Counts.add, htotal, htotal', Extraction.summary, Extraction.cases,
      Extraction.append, List.flatMap_append, List.length_append]
  skipped := by
    have hskipped := h.skipped
    have hskipped' := h'.skipped
    simp only [Extraction.summary, Extraction.cases, countLabel] at hskipped hskipped'
    simp only [Report.merge, Counts.add, Extraction.summary, Extraction.cases, countLabel,
      Extraction.append, List.flatMap_append, List.countP_append]
    exact Nat.add_le_add hskipped hskipped'
  failures := by
    simp only [Report.merge, Extraction.append, Extraction.evaluable, List.map_append,
      List.flatMap_append]
    exact h.failures.append h'.failures

theorem countLabel_cons (label : Text) (c : Fixture.TestCase) (cs : List Fixture.TestCase) :
    countLabel label (c :: cs) =
      countLabel label cs + if c.expectation.label = label then 1 else 0 := by
  rw [countLabel, List.countP_cons]
  simp only [decide_eq_true_eq, countLabel]

/-- Every case has one of the three labels. -/
theorem length_eq_countLabel (cs : List Fixture.TestCase) :
    cs.length = countLabel "match".toList cs + countLabel "empty".toList cs +
      countLabel "deferred".toList cs := by
  induction cs with
  | nil => rfl
  | cons c cs ih =>
    have hlabel : (if c.expectation.label = "match".toList then 1 else 0) +
        (if c.expectation.label = "empty".toList then 1 else 0) +
        (if c.expectation.label = "deferred".toList then 1 else 0) = 1 := by
      cases c.expectation <;> rfl
    rw [countLabel_cons, countLabel_cons, countLabel_cons, List.length_cons, ih]
    omega

theorem label_eq_deferred {e : Fixture.Expectation} :
    e.label = "deferred".toList ↔ e = .deferred := by
  have hcss : "match".toList ≠ "deferred".toList := by decide
  have hempty : "empty".toList ≠ "deferred".toList := by decide
  cases e with
  | css expected => exact ⟨fun h => absurd h hcss, nofun⟩
  | empty => exact ⟨fun h => absurd h hempty, nofun⟩
  | deferred => exact ⟨fun _ => rfl, fun _ => rfl⟩

/-! ### One fixture -/

section Fixture
variable (compile : Session.Compiler) (policy : DuplicatePolicy)

theorem verifyCase_deferred {c : Fixture.TestCase} (h : c.expectation = .deferred)
    (tree : FileTree) : (Session.verifyCase compile policy tree c).1 = .skipped deferredReason := by
  rw [Session.verifyCase, h]
  rfl

/-- The deferred cases are among those that are skipped. -/
theorem deferred_le_skipped (tree : FileTree) (cs : List Fixture.TestCase) :
    countLabel "deferred".toList cs ≤
      (Outcome.counts ((verifyCases compile policy tree cs).1.map (·.2))).skipped := by
  induction cs generalizing tree with
  | nil => exact Nat.le_refl 0
  | cons c cs ih =>
    have hcase : (if c.expectation.label = "deferred".toList then 1 else 0) ≤
        (Counts.ofOutcome (Session.verifyCase compile policy tree c).1).skipped := by
      split
      · next hlabel =>
        rw [verifyCase_deferred compile policy (label_eq_deferred.1 hlabel)]
        exact Nat.le_refl 1
      · exact Nat.zero_le _
    have hmore := ih (Session.verifyCase compile policy tree c).2
    rw [countLabel_cons, verifyCases, List.map_cons, Outcome.counts_cons, Nat.add_comm]
    exact Nat.add_le_add hcase hmore

/-- The failures of a fixture are some of its cases, in their order. -/
theorem places_failures (file : Path) (tree : FileTree) (cs : List Fixture.TestCase) :
    (((verifyCases compile policy tree cs).1.filterMap fun result =>
      Report.failure? file result.1 result.2).map placeOfFailure).Sublist
      ((cs.filter (·.expectation ≠ .deferred)).map (placeOf file)) := by
  induction cs generalizing tree with
  | nil => exact .slnil
  | cons c cs ih =>
    have hskip : ((cs.filter (·.expectation ≠ .deferred)).map (placeOf file)).Sublist
        (((c :: cs).filter (·.expectation ≠ .deferred)).map (placeOf file)) :=
      ((List.sublist_cons_self c cs).filter _).map _
    simp only [verifyCases]
    cases houtcome : (Session.verifyCase compile policy tree c).1 with
    | passed => exact (ih _).trans hskip
    | skipped reason => exact (ih _).trans hskip
    | failed reason =>
      have hevaluated : c.expectation ≠ .deferred := fun h => by
        rw [verifyCase_deferred compile policy h] at houtcome
        cases houtcome
      rw [List.filter_cons_of_pos (by simpa using hevaluated)]
      exact (ih _).cons_cons _

end Fixture

theorem agree_ofOutcomes (compile : Session.Compiler) (options : RunOptions) (tree : FileTree)
    (f : FixtureFile) :
    Agree ⟨[extractFile options f]⟩ (Run.ofOutcomes f
      (verifyCases compile options.duplicates tree (selectCases options f)).1).report := by
  have hlength : (((verifyCases compile options.duplicates tree (selectCases options f)).1.map
      (·.2))).length = (selectCases options f).length := by
    rw [List.length_map, ← List.length_map (·.1), map_fst_verifyCases]
  rw [Run.report_ofOutcomes]
  constructor
  · simp only [List.map_cons, List.map_nil, Run.summary, Outcome.total_counts, hlength, extractFile]
  · rfl
  · simp only [Outcome.total_counts, hlength, Extraction.summary, Extraction.cases, extractFile,
      List.flatMap_cons, List.flatMap_nil, List.append_nil]
  · have hdeferred := deferred_le_skipped compile options.duplicates tree (selectCases options f)
    simpa [Extraction.summary, Extraction.cases, extractFile] using hdeferred
  · have hfailures := places_failures compile options.duplicates f.path tree (selectCases options f)
    simpa [Extraction.evaluable, extractFile, Run.failures] using hfailures

/-! ### The corpus -/

theorem Agree.foldl_addFixture (compile : Session.Compiler) (options : RunOptions)
    {e : Extraction} {s : Run × FileTree} (h : Agree e s.1.report) (fixtures : List FixtureFile) :
    Agree (e.append ⟨fixtures.map (extractFile options)⟩)
      (fixtures.foldl (addFixture compile options) s).1.report := by
  induction fixtures generalizing e s with
  | nil =>
    rw [Extraction.append, List.map_nil, List.append_nil]
    exact h
  | cons f fixtures ih =>
    have hstep : Agree (e.append ⟨[extractFile options f]⟩)
        (addFixture compile options s f).1.report :=
      h.merge (agree_ofOutcomes compile options s.2 f)
    have := ih hstep
    simpa only [Extraction.append, List.append_assoc, List.map_cons, List.singleton_append,
      List.foldl_cons] using this

theorem agree_ofFixtures (compile : Session.Compiler) (options : RunOptions) (tree : FileTree)
    (fixtures : List FixtureFile) : Agree ⟨fixtures.map (extractFile options)⟩
      (ofFixtures compile options tree fixtures).1.report := by
  have hempty : Agree ⟨[]⟩ ((⟨.empty, []⟩, tree) : Run × FileTree).1.report := agree_empty
  exact hempty.foldl_addFixture compile options fixtures

theorem map_path_fixtures {tree : FileTree} {paths : List Path} {fixtures : List FixtureFile}
    (h : paths.map (Corpus.readFixture tree) = fixtures.map .ok) :
    fixtures.map (·.path) = paths := by
  induction paths generalizing fixtures with
  | nil =>
    rw [List.map_nil, eq_comm, List.map_eq_nil_iff] at h
    rw [h, List.map_nil]
  | cons path paths ih =>
    obtain ⟨f, more, rfl, hf, hmore⟩ := List.map_eq_cons_iff.1 h.symm
    rw [List.map_cons, path_of_readFixture hf.symm, ih hmore.symm]

/-- Settings that select alike give options that differ in the policy at most. -/
theorem runOptions_of_alike {s t : Settings} (hfilter : t.groupFilter = s.groupFilter)
    (hwindows : t.windows = s.windows) {options : RunOptions} (h : s.runOptions = .ok options) :
    t.runOptions = .ok { options with duplicates := t.duplicates } := by
  have hpattern : t.groupPattern = s.groupPattern := by
    unfold Settings.groupPattern
    rw [hfilter]
  unfold Settings.runOptions at h ⊢
  rw [hpattern, hwindows]
  cases hs : s.groupPattern with
  | error e =>
    rw [hs] at h
    cases h
  | ok filter =>
    rw [hs] at h
    cases h
    rfl

section Listed
variable {tree : FileTree} {listed : ExtractArguments} {verified : VerifyArguments}
  {e : Extraction} {settings : Settings} {command : Command}

/-- A listed corpus is verified path by path, with options that select as for the list. -/
theorem verify_of_listed (launch : Launcher) (hcorpus : verified.corpus = listed.corpus)
    (hlist : extract tree listed = .ok e) (hsettings : verifySettings tree verified = .ok settings)
    (hcommand : settings.compiler = some command) :
    ∃ options, ∃ fixtures : List FixtureFile, settings.runOptions = .ok options ∧
      (e.files.map (·.path)).map (Corpus.readFixture tree) = fixtures.map .ok ∧
      e = ⟨fixtures.map (extractFile options)⟩ ∧
      verify launch tree verified = .ok ⟨command.program,
        (Session.run (launch command) options tree (e.files.map (·.path))).1,
        settings.failureLimit⟩ := by
  obtain ⟨corpus, json⟩ := listed
  obtain rfl : verified.corpus = corpus := hcorpus
  obtain ⟨config, hconfig, options, hoptions, paths, hpaths, fixtures, hread, rfl⟩ :=
    extract_eq_ok_iff.1 hlist
  obtain ⟨compiler, -, hrest⟩ := bind_eq_ok.1 hsettings
  obtain ⟨config', hconfig', hresolved⟩ := bind_eq_ok.1 hrest
  obtain rfl := Except.ok.inj (hconfig.symm.trans hconfig')
  have hresolved := Except.ok.inj hresolved
  let judged : RunOptions := { options with duplicates := settings.duplicates }
  have hjudged : settings.runOptions = .ok judged :=
    runOptions_of_alike (hresolved ▸ rfl) (hresolved ▸ rfl) hoptions
  have hlisted : (fixtures.map (extractFile options)).map (·.path) = paths := by
    rw [List.map_map]
    exact map_path_fixtures hread
  have hdiscover : Corpus.discover tree settings.fixtureDirectory settings.fixtureGlob =
      .ok paths := by
    rw [← hresolved]
    exact hpaths
  refine ⟨judged, fixtures, hjudged, ?_, rfl, ?_⟩
  · rw [hlisted]
    exact hread
  · rw [hlisted]
    exact verify_of_settings launch hsettings hjudged hcommand hdiscover

/-- **What is listed is what is verified.** For the same corpus, verification succeeds where
listing does, and its report agrees with the list, whatever compiler the command becomes,
provided that it leaves every fixture alone until its turn has come. -/
theorem verify_agrees {launch : Launcher} (hcorpus : verified.corpus = listed.corpus)
    (hlist : extract tree listed = .ok e) (hsettings : verifySettings tree verified = .ok settings)
    (hcommand : settings.compiler = some command)
    (hundisturbed : ∀ options, settings.runOptions = .ok options →
      Undisturbed (launch command) options tree (e.files.map (·.path))) :
    ∃ v, verify launch tree verified = .ok v ∧ Agree e v.run.report ∧
      e.summary.cases = e.summary.matching + e.summary.empty + e.summary.deferred := by
  obtain ⟨options, fixtures, hoptions, hread, he, hverify⟩ :=
    verify_of_listed launch hcorpus hlist hsettings hcommand
  refine ⟨_, hverify, ?_, length_eq_countLabel _⟩
  show Agree e (Session.run (launch command) options tree (e.files.map (·.path))).1.report
  rw [Session.run_of_undisturbed (hundisturbed options hoptions) hread, he]
  exact agree_ofFixtures (launch command) options tree fixtures

/-- With a compiler that never changes a listed fixture, the report agrees with the list. -/
theorem verify_agrees_of_keeps {launch : Launcher} (hcorpus : verified.corpus = listed.corpus)
    (hlist : extract tree listed = .ok e) (hsettings : verifySettings tree verified = .ok settings)
    (hcommand : settings.compiler = some command)
    (hkeeps : Session.Keeps (launch command) (e.files.map (·.path))) :
    ∃ v, verify launch tree verified = .ok v ∧ Agree e v.run.report := by
  obtain ⟨options, fixtures, -, hread, he, hverify⟩ :=
    verify_of_listed launch hcorpus hlist hsettings hcommand
  refine ⟨_, hverify, ?_⟩
  show Agree e (Session.run (launch command) options tree (e.files.map (·.path))).1.report
  rw [Session.run_of_keeps options hkeeps hread, he]
  exact agree_ofFixtures (launch command) options tree fixtures

end Listed

/-! ### Compilers that empty a fixture -/

def firstPath : Path := "fixtures/a.test.ts".toList

def secondPath : Path := "fixtures/b.test.ts".toList

/-- Two fixtures with a case each. -/
def sampleTree : FileTree := .ofFiles ([firstPath, secondPath].map fun path =>
  (path, .file (Text.utf8 (Run.blankFixture path).text)))

def emptyingCommand (path : Path) : Command := ⟨"sh".toList, ["-c".toList, ": > ".toList ++ path]⟩

/-- How the commands of the samples become compilers. -/
def byShell : Launcher := Command.run Shell.system

/-- A verification with a compiler that empties a file. -/
def emptying (path : Path) : VerifyArguments where
  compiler := some (emptyingCommand path).program
  compilerArguments := (emptyingCommand path).arguments

theorem load_sample : Config.load sampleTree none = .ok {} := by
  have hnone : sampleTree.isFile Settings.defaultFile = false := by decide +kernel
  rw [Config.load, hnone]
  rfl

theorem discover_sample :
    Corpus.discover sampleTree Settings.defaultDirectory Settings.defaultGlob =
      .ok [firstPath, secondPath] := by
  have hpattern : Glob.parse Settings.defaultGlob =
      .ok ⟨Settings.defaultGlob, .anyRun :: ".test.ts".toList.map .char⟩ :=
    Glob.parse_star (by decide)
  have hread : sampleTree.readDirectory Settings.defaultDirectory =
      .ok [⟨"b.test.ts".toList, true⟩, ⟨"a.test.ts".toList, true⟩] := rfl
  rw [Corpus.discover_of_readDirectory hpattern hread]
  apply Corpus.ofListing_eq_ok_iff.2
  refine ⟨Corpus.select_eq_of_pairwise ?_ (by decide), List.cons_ne_nil _ _⟩
  exact List.Perm.swap _ _ []

theorem readFixture_of_toOption {tree : FileTree} {path : Path} {f : FixtureFile}
    (h : (Corpus.readFixture tree path).toOption = some f) : Corpus.readFixture tree path = .ok f := by
  cases hf : Corpus.readFixture tree path with
  | error e =>
    rw [hf] at h
    cases h
  | ok g =>
    rw [hf] at h
    rw [Option.some.inj h]

theorem readFixture_second :
    Corpus.readFixture sampleTree secondPath = .ok (Run.blankFixture secondPath) :=
  readFixture_of_toOption (by decide +kernel)

theorem extract_sample : extract sampleTree {} =
    .ok ⟨[Run.blankFixture firstPath, Run.blankFixture secondPath].map (extractFile {})⟩ := by
  have hfirst : Corpus.readFixture sampleTree firstPath = .ok (Run.blankFixture firstPath) :=
    readFixture_of_toOption (by decide +kernel)
  refine extract_eq_ok_iff.2 ⟨_, load_sample, {}, rfl, _, discover_sample, _, ?_, rfl⟩
  simp only [List.map_cons, List.map_nil, hfirst, readFixture_second]

theorem verifySettings_sample (path : Path) : verifySettings sampleTree (emptying path) =
    .ok (Settings.resolve {} { compiler := some (emptyingCommand path) }) :=
  bind_eq_ok.2 ⟨_, rfl, bind_eq_ok.2 ⟨_, load_sample, rfl⟩⟩

theorem undisturbed_pair {compile : Session.Compiler} {options : RunOptions} {tree : FileTree}
    {p q : Path} (h : Corpus.readFixture (Session.run compile options tree [p]).2 q =
      Corpus.readFixture tree q) : Undisturbed compile options tree [p, q] := by
  intro before path after hsplit
  match before, hsplit with
  | [], _ => rfl
  | [r], hsplit =>
    simp only [List.cons_append, List.nil_append, List.cons.injEq] at hsplit
    obtain ⟨rfl, rfl, -⟩ := hsplit
    exact h
  | _ :: _ :: _, hsplit => simp at hsplit

/-- A fixture may be emptied once it has been verified. -/
theorem verify_agrees_emptying_first :
    ∃ e v, extract sampleTree {} = .ok e ∧ verify byShell sampleTree (emptying firstPath) = .ok v ∧
      Agree e v.run.report ∧ e.files.map (·.path) = [firstPath, secondPath] := by
  have hundisturbed : Undisturbed (byShell (emptyingCommand firstPath)) {} sampleTree
      [firstPath, secondPath] := by
    apply undisturbed_pair
    rw [readFixture_second]
    exact readFixture_of_toOption (by decide +kernel)
  have hsettings := verifySettings_sample firstPath
  obtain ⟨v, hv, hagree, -⟩ := verify_agrees rfl extract_sample hsettings rfl
    fun options hoptions => by
      obtain rfl : {} = options := Except.ok.inj hoptions
      exact hundisturbed
  exact ⟨_, v, extract_sample, hv, hagree, rfl⟩

/-- A fixture that is emptied before its turn has cases that are listed and not verified. -/
theorem emptied_fixture_disagrees :
    ∃ e v, extract sampleTree {} = .ok e ∧ verify byShell sampleTree (emptying secondPath) = .ok v ∧
      e.summary.cases = 2 ∧ v.run.report.counts.total = 1 := by
  have hverify :=
    verify_of_settings byShell (verifySettings_sample secondPath) rfl rfl discover_sample
  refine ⟨_, _, extract_sample, hverify, ?_, ?_⟩ <;> decide +kernel

end StyleSnapshot.CommandLine
