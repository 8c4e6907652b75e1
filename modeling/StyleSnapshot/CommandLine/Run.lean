import StyleSnapshot.CommandLine.Extract
import StyleSnapshot.CommandLine.Verify
import StyleSnapshot.Verification.ShellSystem

/-! Running a command line in a tree of files.

A command line without a reading exits with 2 and says nothing on standard output. A
command that meets a problem prints it in structured form and exits with 1, as does a
verification with failures. -/
namespace StyleSnapshot.CommandLine

/-- What a command leaves: its exit code and its output. -/
structure Outcome where
  exit : Nat
  output : Text
  /-- The problem that the output tells, if the command met one. -/
  problem : Option Problem := none
  deriving DecidableEq, Repr

/-- Ends the output with a line break. -/
def finish (exit : Nat) (output : Text) : Outcome := ⟨exit, output ++ ['\n'], none⟩

def ofProblem (p : Problem) : Outcome := ⟨1, p.toJson.pretty 0 ++ ['\n'], some p⟩

def runInvocation (launch : Launcher) (tree : FileTree) : Invocation → Outcome
  | .extract a =>
    match extract tree a with
    | .error p => ofProblem p
    | .ok e => finish 0 (if a.json then e.toJson.pretty 0 else e.toText)
  | .verify a =>
    match verify launch tree a with
    | .error p => ofProblem p
    | .ok v =>
      finish (if v.run.report.isSuccess then 0 else 1)
        (if a.json then v.toJson.pretty 0 else v.toText)

/-- Runs a command line whose commands become compilers in some way. -/
def runWith (launch : Launcher) (tree : FileTree) (arguments : List Text) : Outcome :=
  match invocation? arguments with
  | none => ⟨2, [], none⟩
  | some invocation => runInvocation launch tree invocation

/-- Runs a command line whose commands are programs of the shell. -/
def run (tree : FileTree) (arguments : List Text) : Outcome :=
  runWith (Command.run Shell.system) tree arguments

end StyleSnapshot.CommandLine
