import StyleSnapshot.Verification.Case

/-! Verifying files.

A run yields a report and, in order, the events a user may watch. Each readable file
opens with an event, has one event for each of its cases, and closes with the summary
that the report holds of it; a file that cannot be read leaves only its path on the
report. -/
namespace StyleSnapshot

inductive Event where
  | fileStarted (path : Path)
  | caseFinished (outcome : Outcome)
  | fileFinished (summary : FileSummary)
  deriving DecidableEq

structure Run where
  report : Report
  events : List Event
  deriving DecidableEq

namespace Event

def toText : Event → Text
  | .fileStarted path => path ++ [' ']
  | .caseFinished outcome => [outcome.glyph]
  | .fileFinished s =>
    [' '] ++ Text.ofNat s.counts.passed ++ " passed, ".toList ++ Text.ofNat s.counts.failed ++
      " failed, ".toList ++ Text.ofNat s.counts.skipped ++ " skipped\n".toList

def outcome? : Event → Option Outcome
  | .caseFinished outcome => some outcome
  | .fileStarted _ | .fileFinished _ => none

end Event

namespace Run

/-- The progress output of a run: one glyph for each case and one line for each file. -/
def progress (r : Run) : Text := r.events.flatMap (·.toText)

def outcomes (r : Run) : List Outcome := r.events.filterMap (·.outcome?)

/-- The run of a file whose cases had some outcomes. -/
def ofOutcomes (f : FixtureFile) (results : List (Fixture.TestCase × Outcome)) : Run :=
  let report := results.foldl (fun r result => r.record f.path result.1 result.2) (Report.ofFile f)
  { report
    events := .fileStarted f.path :: results.map (fun result => .caseFinished result.2) ++
      (report.files.getLast?.map .fileFinished).toList }

/-- Verifies the selected cases of a file. -/
def ofFile (compile : Compiler) (options : RunOptions) (f : FixtureFile) : Run :=
  ofOutcomes f ((selectCases options f).map fun c => (c, verifyCase compile options.duplicates c))

/-- The run, followed by the run of one more file. -/
def followedBy (r more : Run) : Run := ⟨r.report.merge more.report, r.events ++ more.events⟩

/-- The run, and a file that could not be read. -/
def addUnreadable (r : Run) (path : Path) : Run :=
  { r with report := r.report.addUnreadable path }

/-- The run with one more file, which may turn out to be unreadable. -/
def addFile (read : Path → Except Problem FixtureFile) (compile : Compiler)
    (options : RunOptions) (r : Run) (path : Path) : Run :=
  match read path with
  | .ok f => r.followedBy (ofFile compile options f)
  | .error _ => r.addUnreadable path

/-- Verifies files one after the other. -/
def ofPaths (read : Path → Except Problem FixtureFile) (compile : Compiler)
    (options : RunOptions) (paths : List Path) : Run :=
  paths.foldl (addFile read compile options) ⟨.empty, []⟩

end Run
end StyleSnapshot
