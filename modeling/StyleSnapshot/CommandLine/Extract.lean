import StyleSnapshot.CommandLine.Arguments
import StyleSnapshot.Corpus
import StyleSnapshot.Fixture.Json
import StyleSnapshot.Report.Text

/-! The command that lists the cases of a corpus. Every file has to be readable. -/
namespace StyleSnapshot.CommandLine

/-- The selected cases of a file. -/
structure ExtractedFile where
  path : Path
  fingerprint : Text
  cases : List Fixture.TestCase
  deriving DecidableEq, Repr

structure ExtractSummary where
  files : Nat
  cases : Nat
  matching : Nat
  empty : Nat
  deferred : Nat
  deriving DecidableEq, Repr

structure Extraction where
  files : List ExtractedFile
  deriving DecidableEq, Repr

namespace Extraction

def cases (e : Extraction) : List Fixture.TestCase := e.files.flatMap (·.cases)

/-- How many cases have an expectation of the given label. -/
def countLabel (label : Text) (cs : List Fixture.TestCase) : Nat :=
  cs.countP fun c => c.expectation.label = label

def summary (e : Extraction) : ExtractSummary where
  files := e.files.length
  cases := e.cases.length
  matching := countLabel "match".toList e.cases
  empty := countLabel "empty".toList e.cases
  deferred := countLabel "deferred".toList e.cases

end Extraction

/-- The selected cases of a fixture. -/
def extractFile (options : RunOptions) (f : FixtureFile) : ExtractedFile :=
  ⟨f.path, fingerprint f.text, selectCases options f⟩

/-- The cases of the corpus. -/
def extract (tree : FileTree) (a : ExtractArguments) : Except Problem Extraction := do
  let settings := Settings.resolve (← Config.load tree a.corpus.config) a.corpus.overrides
  let options ← settings.runOptions
  let paths ← Corpus.discover tree settings.fixtureDirectory settings.fixtureGlob
  let files ← paths.mapM fun path => (Corpus.readFixture tree path).map (extractFile options)
  return ⟨files⟩

namespace Extraction

/-- A case on one line. -/
def caseLine (path : Path) (c : Fixture.TestCase) : Text :=
  lineOf [path, [':'], Text.ofNat c.line, [' '], c.group, " #".toList, Text.ofNat c.ordinal,
    [' '], c.expectation.label, [' '], tokensText c.tokens]

def summaryText (s : ExtractSummary) : Text :=
  Text.ofNat s.cases ++ " case(s) in ".toList ++ Text.ofNat s.files ++ " file(s): ".toList ++
    Text.ofNat s.matching ++ " match, ".toList ++ Text.ofNat s.empty ++ " empty, ".toList ++
    Text.ofNat s.deferred ++ " deferred".toList

def toText (e : Extraction) : Text :=
  (e.files.flatMap fun f => f.cases.flatMap (caseLine f.path)) ++ summaryText e.summary

def fileJson (f : ExtractedFile) : Json :=
  .record [("path", .string f.path), ("fingerprint", .string f.fingerprint),
    ("cases", .array (f.cases.map (·.toJson)))]

def toJson (e : Extraction) : Json :=
  .record [("files", .array (e.files.map fileJson)),
    ("summary", .record [("files_scanned", .ofNat e.summary.files),
      ("cases", .ofNat e.summary.cases), ("matches", .ofNat e.summary.matching),
      ("empty", .ofNat e.summary.empty), ("deferred", .ofNat e.summary.deferred)])]

end Extraction
end StyleSnapshot.CommandLine
