import StyleSnapshot.Settings.Basic
import StyleSnapshot.Shell.Process
import StyleSnapshot.Verification.Session

/-! Compilers that are programs.

The program is run once for each case. Its input is the array of tokens on one line, its
output is the stylesheet, and what it writes to standard error matters only when it
fails. What it does to the files is there for the next case. Which programs there are and
what they do is up to the system, of which nothing is assumed here. -/
namespace StyleSnapshot

/-- Why a program comes to no end that could be looked at. That it ends without reading its
input is no such reason. -/
inductive LaunchError where
  | notStarted (cause : Text)
  | inputNotWritten (cause : Text)
  | outputNotCollected (cause : Text)
  deriving DecidableEq, Repr

def LaunchError.problem (program : Text) : LaunchError → Problem
  | .notStarted cause => .compilerNotStarted program cause
  | .inputNotWritten cause =>
    .compilerFailed program ("failed to write tokens: ".toList ++ cause)
  | .outputNotCollected cause =>
    .compilerFailed program ("failed to collect output: ".toList ++ cause)

/-- What comes of a program with some arguments and some input in a tree of files, and the
files that are left. -/
abbrev System :=
  FileTree → Text → List Text → List UInt8 → Except LaunchError Completion × FileTree

/-- What the completion of a program says: its output, or why there is none. -/
def Command.answer (command : Command) (done : Completion) : Except Problem Text :=
  if done.status.isSuccess then
    match Text.decode? done.output with
    | some css => .ok css
    | none => .error (.compilerFailed command.program "stdout is not valid UTF-8".toList)
  else
    let detail := Text.trim (Text.decodeLenient done.errors)
    .error (.compilerFailed command.program
      (if detail = [] then done.status.toText else done.status.toText ++ ": ".toList ++ detail))

/-- The stylesheet that a program makes of some tokens, and the files it leaves. -/
def Command.run (system : System) (command : Command) : Session.Compiler := fun tree tokens =>
  let input := Text.utf8 (Json.ofTexts tokens).compact
  match system tree command.program command.arguments input with
  | (.error e, tree) => (.error (e.problem command.program), tree)
  | (.ok done, tree) => (command.answer done, tree)

/-- How commands become compilers. -/
abbrev Launcher := Command → Session.Compiler

end StyleSnapshot
