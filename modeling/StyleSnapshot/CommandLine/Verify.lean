import StyleSnapshot.CommandLine.Arguments
import StyleSnapshot.Corpus
import StyleSnapshot.Report.Json
import StyleSnapshot.Report.Text
import StyleSnapshot.Verification.Command

/-! The command that verifies a compiler against a corpus. A file that cannot be read is
listed in the report and does not stop the run. -/
namespace StyleSnapshot.CommandLine

/-- The compiler that the arguments name, if they name one. -/
def commandOf (a : VerifyArguments) : Except Problem (Option Command) :=
  match a.compiler with
  | some program => .ok (some ⟨program, a.compilerArguments⟩)
  | none =>
    if a.compilerArguments.isEmpty then .ok none
    else .error (.invalidRequest "--compiler-arg requires --compiler".toList)

/-- A verified corpus, and how it is to be shown. -/
structure Verification where
  compiler : Text
  run : Run
  failureLimit : Nat
  deriving DecidableEq

/-- Verifies the corpus with the compiler that the command becomes. -/
def verify (launch : Launcher) (tree : FileTree) (a : VerifyArguments) :
    Except Problem Verification := do
  let compiler ← commandOf a
  let config ← Config.load tree a.corpus.config
  let settings := Settings.resolve config
    { a.corpus.overrides with
      failureLimit := a.failureLimit
      duplicates := a.duplicates
      compiler := compiler }
  let options ← settings.runOptions
  match settings.compiler with
  | none => throw .compilerMissing
  | some command =>
    let paths ← Corpus.discover tree settings.fixtureDirectory settings.fixtureGlob
    let (run, _) := Session.run (launch command) options tree paths
    return ⟨command.program, run, settings.failureLimit⟩

namespace Verification

/-- The progress of the run and the report on it. -/
def toText (v : Verification) : Text := v.run.progress ++ v.run.report.toText v.failureLimit

def toJson (v : Verification) : Json :=
  .record ([("compiler", .string v.compiler), ("success", .bool v.run.report.isSuccess),
    ("pass_rate", v.run.report.rateJson)] ++ v.run.report.members)

end Verification
end StyleSnapshot.CommandLine
