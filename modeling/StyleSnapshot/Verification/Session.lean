import StyleSnapshot.Corpus
import StyleSnapshot.Verification.Run

/-! Verification with a compiler that may change files.

The compiler sees the files as the cases before have left them, and so does the reader of
the fixture files. `run_leaving` says that a compiler that leaves the files alone makes no
difference between a session and a run. -/
namespace StyleSnapshot.Session

/-- A compiler that works on a tree of files and leaves another. -/
abbrev Compiler := FileTree → List Text → Except Problem Text × FileTree

/-- Verifies a case. A case that is not evaluated leaves the files as they are. -/
def verifyCase (compile : Compiler) (policy : DuplicatePolicy) (tree : FileTree)
    (c : Fixture.TestCase) : Outcome × FileTree :=
  match c.expectation.demand policy with
  | .error reason => (.skipped reason, tree)
  | .ok demand =>
    let (answer, tree) := compile tree c.tokens
    (demand.settle policy answer, tree)

/-- Verifies cases one after the other. -/
def verifyCases (compile : Compiler) (policy : DuplicatePolicy) (tree : FileTree) :
    List Fixture.TestCase → List (Fixture.TestCase × Outcome) × FileTree
  | [] => ([], tree)
  | c :: more =>
    let (outcome, tree) := verifyCase compile policy tree c
    let (results, tree) := verifyCases compile policy tree more
    ((c, outcome) :: results, tree)

/-- The session with one more file. -/
def addFile (compile : Compiler) (options : RunOptions) (session : Run × FileTree) (path : Path) :
    Run × FileTree :=
  let (r, tree) := session
  match Corpus.readFixture tree path with
  | .ok f =>
    let (results, tree) := verifyCases compile options.duplicates tree (selectCases options f)
    (r.followedBy (.ofOutcomes f results), tree)
  | .error _ => (r.addUnreadable path, tree)

/-- Verifies files one after the other. -/
def run (compile : Compiler) (options : RunOptions) (tree : FileTree) (paths : List Path) :
    Run × FileTree :=
  paths.foldl (addFile compile options) (⟨.empty, []⟩, tree)

/-! ### Compilers that leave the files alone -/

/-- A compiler as one that leaves the files alone. -/
def leaving (compile : StyleSnapshot.Compiler) : Compiler := fun tree tokens =>
  (compile tokens, tree)

theorem verifyCase_leaving (compile : StyleSnapshot.Compiler) (policy : DuplicatePolicy)
    (tree : FileTree) (c : Fixture.TestCase) :
    verifyCase (leaving compile) policy tree c =
      (StyleSnapshot.verifyCase compile policy c, tree) := by
  unfold verifyCase StyleSnapshot.verifyCase
  cases c.expectation.demand policy <;> rfl

theorem verifyCases_leaving (compile : StyleSnapshot.Compiler) (policy : DuplicatePolicy)
    (tree : FileTree) (cases : List Fixture.TestCase) :
    verifyCases (leaving compile) policy tree cases =
      (cases.map fun c => (c, StyleSnapshot.verifyCase compile policy c), tree) := by
  induction cases with
  | nil => rfl
  | cons c more ih => simp [verifyCases, verifyCase_leaving, ih]

theorem addFile_leaving (compile : StyleSnapshot.Compiler) (options : RunOptions) (r : Run)
    (tree : FileTree) (path : Path) :
    addFile (leaving compile) options (r, tree) path =
      (r.addFile (Corpus.readFixture tree) compile options path, tree) := by
  unfold addFile Run.addFile
  simp only [verifyCases_leaving, Run.ofFile]
  cases Corpus.readFixture tree path <;> rfl

theorem run_leaving (compile : StyleSnapshot.Compiler) (options : RunOptions) (tree : FileTree)
    (paths : List Path) :
    run (leaving compile) options tree paths =
      (.ofPaths (Corpus.readFixture tree) compile options paths, tree) := by
  unfold run Run.ofPaths
  generalize (⟨.empty, []⟩ : Run) = r
  induction paths generalizing r with
  | nil => rfl
  | cons path more ih =>
    simp only [List.foldl_cons]
    rw [addFile_leaving, ih]

end StyleSnapshot.Session
