import StyleSnapshot.Comparison.Basic
import StyleSnapshot.Decimal.Binary
import StyleSnapshot.Fingerprint.Tree
import StyleSnapshot.Fixture.Case
import StyleSnapshot.Path

/-! Reports on a verification.

A report counts the outcomes of cases, for all files together and for each file, and
lists the failures, the reasons for skipping and the files that could not be read.
Reports of parts are put together by `merge`; recording an outcome charges it to the last
file of the report. -/
namespace StyleSnapshot

/-- A file of tests. -/
structure FixtureFile where
  path : Path
  text : Text
  deriving DecidableEq, Repr

/-- Why a case failed. -/
inductive FailureReason where
  | mismatch (comparison : Comparison)
  /-- Output where none was expected. -/
  | unexpectedOutput (css : Text)
  | compilerError (message : Text)
  deriving DecidableEq

inductive Outcome where
  | passed
  | failed (reason : FailureReason)
  | skipped (reason : Text)
  deriving DecidableEq

/-- The character that stands for an outcome in progress output. -/
def Outcome.glyph : Outcome → Char
  | .passed => '.'
  | .failed _ => 'F'
  | .skipped _ => 's'

/-! ### Counts -/

structure Counts where
  total : Nat
  passed : Nat
  failed : Nat
  skipped : Nat
  deriving DecidableEq, Repr

namespace Counts

def zero : Counts := ⟨0, 0, 0, 0⟩

def add (a b : Counts) : Counts :=
  ⟨a.total + b.total, a.passed + b.passed, a.failed + b.failed, a.skipped + b.skipped⟩

/-- One case with the given outcome. -/
def ofOutcome : Outcome → Counts
  | .passed => ⟨1, 1, 0, 0⟩
  | .failed _ => ⟨1, 0, 1, 0⟩
  | .skipped _ => ⟨1, 0, 0, 1⟩

end Counts

/-! ### Reports -/

/-- A case that failed, and where. -/
structure Failure where
  file : Path
  group : Text
  ordinal : Nat
  line : Nat
  tokens : List Text
  reason : FailureReason
  deriving DecidableEq

structure FileSummary where
  path : Path
  fingerprint : Text
  counts : Counts
  deriving DecidableEq, Repr

structure Report where
  counts : Counts
  files : List FileSummary
  failures : List Failure
  skipReasons : Histogram
  unreadable : List Path
  deriving DecidableEq

namespace Report

def empty : Report := ⟨.zero, [], [], ∅, []⟩

/-- The report on a file none of whose cases has been evaluated. -/
def ofFile (f : FixtureFile) : Report :=
  { empty with files := [⟨f.path, fingerprint f.text, .zero⟩] }

/-- Charges counts to the last file. -/
def charge (counts : Counts) : List FileSummary → List FileSummary
  | [] => []
  | [last] => [{ last with counts := last.counts.add counts }]
  | file :: more => file :: charge counts more

/-- The failure that an outcome makes of a case. -/
def failure? (file : Path) (c : Fixture.TestCase) : Outcome → Option Failure
  | .failed reason => some ⟨file, c.group, c.ordinal, c.line, c.tokens, reason⟩
  | .passed | .skipped _ => none

/-- The reasons for skipping with that of one more outcome. -/
def countReason (reasons : Histogram) : Outcome → Histogram
  | .skipped reason => reasons.add reason 1
  | .passed | .failed _ => reasons

/-- The report with the outcome of one more case. -/
def record (file : Path) (r : Report) (c : Fixture.TestCase) (o : Outcome) : Report where
  counts := r.counts.add (.ofOutcome o)
  files := charge (.ofOutcome o) r.files
  failures := r.failures ++ (failure? file c o).toList
  skipReasons := countReason r.skipReasons o
  unreadable := r.unreadable

/-- Both reports together, the second behind the first. -/
def merge (a b : Report) : Report where
  counts := a.counts.add b.counts
  files := a.files ++ b.files
  failures := a.failures ++ b.failures
  skipReasons := a.skipReasons.merge b.skipReasons
  unreadable := a.unreadable ++ b.unreadable

def addUnreadable (r : Report) (path : Path) : Report :=
  { r with unreadable := r.unreadable ++ [path] }

def isSuccess (r : Report) : Bool := r.counts.failed = 0

/-- The share in percent of the evaluated cases that passed; a skipped case was not
evaluated. -/
def passRate? (r : Report) : Option Double :=
  let evaluated := r.counts.passed + r.counts.failed
  if evaluated = 0 then none else some (.ofQuotient (r.counts.passed * 100) evaluated)

end Report
end StyleSnapshot
