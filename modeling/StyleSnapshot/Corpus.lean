import StyleSnapshot.FileTree
import StyleSnapshot.Glob
import StyleSnapshot.Problem
import StyleSnapshot.Report.Basic

/-! The fixtures of a corpus: the files directly inside a directory whose names match a
pattern, in ascending order of their paths. -/
namespace StyleSnapshot.Corpus

/-- The paths of the listed files whose names match, in order. -/
def select (directory : Path) (pattern : Glob.Pattern) (listing : List FileTree.Listed) :
    List Path :=
  Text.sort ((listing.filter fun e => e.isFile && pattern.matches e.name).map fun e =>
    Path.join directory e.name)

/-- The fixtures in a listed directory; finding none is a problem. -/
def ofListing (directory : Path) (pattern : Glob.Pattern) (listing : List FileTree.Listed) :
    Except Problem (List Path) :=
  match select directory pattern listing with
  | [] => .error (.noFixtures directory pattern.source)
  | paths => .ok paths

/-- The fixtures in a directory. A bad pattern is reported before the directory is read. -/
def discover (tree : FileTree) (directory : Path) (pattern : Text) :
    Except Problem (List Path) :=
  match Glob.parse pattern with
  | .error e => .error (.invalidFixturePattern pattern e.message)
  | .ok compiled =>
    match tree.readDirectory directory with
    | .error e => .error (.unreadable directory e.message)
    | .ok listing => ofListing directory compiled listing

/-- Reads a file of tests. -/
def readFixture (tree : FileTree) (p : Path) : Except Problem FixtureFile :=
  match tree.readText p with
  | .ok t => .ok ⟨p, t⟩
  | .error e => .error (.unreadable p e.message)

end StyleSnapshot.Corpus
