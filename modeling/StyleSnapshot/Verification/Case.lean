import StyleSnapshot.Glob
import StyleSnapshot.Problem
import StyleSnapshot.Report.Basic
import StyleSnapshot.Stylesheet.Piece

/-! The outcome of one case.

A case is skipped when its expectation is deferred, or when the expected stylesheet has
no flat rule and so could never be missed; only then is the compiler not asked. A case
that expects no output passes when the output is blank, and any other when nothing of the
expected stylesheet is missing or different. -/
namespace StyleSnapshot

/-- A compiler under test: the stylesheet for some tokens, or why there is none. -/
abbrev Compiler := List Text → Except Problem Text

/-- What is selected and how it is judged. -/
structure RunOptions where
  windows : Fixture.Windows := {}
  duplicates : DuplicatePolicy := .merge
  /-- Only groups whose names match take part. -/
  filter : Option Glob.Pattern := none

def deferredReason : Text := "auxiliary configuration required".toList

def noRulesReason : Text := "expected snapshot has no comparable rules".toList

/-- What an evaluated case asks of the output. -/
inductive Demand where
  | blank
  | rules (expected : Stylesheet)
  deriving DecidableEq, Repr

/-- What an expectation asks of the output, or why it is not evaluated. -/
def Fixture.Expectation.demand (policy : DuplicatePolicy) :
    Fixture.Expectation → Except Text Demand
  | .deferred => .error deferredReason
  | .empty => .ok .blank
  | .css expected =>
    let s := Stylesheet.parse policy expected
    if s.rules = [] then .error noRulesReason else .ok (.rules s)

/-- The outcome for an output. -/
def Demand.judge (policy : DuplicatePolicy) (output : Text) : Demand → Outcome
  | .blank => if Text.trim output = [] then .passed else .failed (.unexpectedOutput output)
  | .rules expected =>
    let c := Comparison.ofStylesheets expected (Stylesheet.parse policy output)
    if c.passed then .passed else .failed (.mismatch c)

/-- The outcome for what the compiler answers. -/
def Demand.settle (policy : DuplicatePolicy) (demand : Demand) : Except Problem Text → Outcome
  | .error problem => .failed (.compilerError problem.message)
  | .ok output => demand.judge policy output

/-- The outcome of a case. -/
def verifyCase (compile : Compiler) (policy : DuplicatePolicy) (c : Fixture.TestCase) :
    Outcome :=
  match c.expectation.demand policy with
  | .error reason => .skipped reason
  | .ok demand => demand.settle policy (compile c.tokens)

/-- The cases of a file whose groups take part. -/
def selectCases (options : RunOptions) (f : FixtureFile) : List Fixture.TestCase :=
  (Fixture.cases options.windows f.text).filter fun c =>
    options.filter.all fun pattern => pattern.matches c.group

end StyleSnapshot
