import StyleSnapshot.Json

/-! What can go wrong, by cause. -/
namespace StyleSnapshot

/-- The reason why a command or a single compilation did not succeed. -/
inductive Problem where
  /-- A file or directory could not be read. -/
  | unreadable (path cause : Text)
  /-- No file of a directory matches the pattern for fixtures. -/
  | noFixtures (directory pattern : Text)
  | invalidFixturePattern (pattern cause : Text)
  | invalidFilterPattern (pattern cause : Text)
  | invalidConfig (path cause : Text)
  | invalidRequest (cause : Text)
  | compilerMissing
  /-- The program of the compiler under test could not be started. -/
  | compilerNotStarted (program cause : Text)
  | compilerFailed (program cause : Text)
  | notSerializable (cause : Text)
  deriving DecidableEq, Repr

namespace Problem

/-- The kind of problem, for programs that read the answer. -/
def kind : Problem → Text
  | .unreadable .. => "io_error".toList
  | .noFixtures .. => "no_fixtures".toList
  | .invalidFixturePattern .. | .invalidFilterPattern .. => "invalid_pattern".toList
  | .invalidConfig .. => "invalid_config".toList
  | .invalidRequest .. => "invalid_request".toList
  | .compilerMissing => "compiler_missing".toList
  | .compilerNotStarted .. | .compilerFailed .. => "compiler_failed".toList
  | .notSerializable .. => "serialization_error".toList

/-- A name between single quotes. -/
def named (name : Text) : Text := '\'' :: name ++ ['\'']

def message : Problem → Text
  | .unreadable path cause => "Failed to read ".toList ++ named path ++ ": ".toList ++ cause
  | .noFixtures directory pattern =>
    "No fixture files matching ".toList ++ named pattern ++ " found in ".toList ++ named directory
  | .invalidFixturePattern pattern cause =>
    "Invalid fixture glob pattern ".toList ++ named pattern ++ ": ".toList ++ cause
  | .invalidFilterPattern pattern cause =>
    "Invalid group filter pattern ".toList ++ named pattern ++ ": ".toList ++ cause
  | .invalidConfig path cause =>
    "Failed to parse config file ".toList ++ named path ++ ": ".toList ++ cause
  | .invalidRequest cause => "Invalid request: ".toList ++ cause
  | .compilerMissing => "Compiler under test is not configured".toList
  | .compilerNotStarted program cause =>
    "Failed to launch compiler ".toList ++ named program ++ ": ".toList ++ cause
  | .compilerFailed program cause =>
    "Compiler ".toList ++ named program ++ " failed: ".toList ++ cause
  | .notSerializable cause => "Failed to serialize response JSON: ".toList ++ cause

/-- What the user can do about it, where there is one thing to do. -/
def suggestion? : Problem → Option Text
  | .noFixtures .. =>
    some "Pass the fixture directory as DIR or set fixture_dir in snapverify.toml".toList
  | .invalidFixturePattern .. | .invalidFilterPattern .. =>
    some "Use a valid glob pattern such as '*.test.ts'".toList
  | .compilerMissing =>
    some "Pass --compiler PROGRAM or set [compiler] program in snapverify.toml".toList
  | _ => none

def toJson (p : Problem) : Json :=
  .record [("error", .record ([("type", .string p.kind), ("message", .string p.message)] ++
    (p.suggestion?.map fun s => ("suggestion", Json.string s)).toList))]

end Problem
end StyleSnapshot
