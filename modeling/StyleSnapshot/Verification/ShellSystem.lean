import StyleSnapshot.Shell.Program
import StyleSnapshot.Verification.Command

/-! A system to run commands in: its programs are a shell, the tools that scripts use, and
scripts among the files. -/
namespace StyleSnapshot

/-- A program that cannot be started leaves the files as they are. -/
def Shell.system : System := fun tree program arguments input =>
  match runProgram tree program arguments input with
  | .error e => (.error (.notStarted e.message), tree)
  | .ok (done, tree) => (.ok done, tree)

/-- The stylesheet that a program of this system makes of some tokens. -/
def Command.compile (tree : FileTree) (command : Command) : Compiler := fun tokens =>
  (command.run Shell.system tree tokens).1

end StyleSnapshot
