import StyleSnapshot.FileTree
import StyleSnapshot.Settings.Config
import StyleSnapshot.Verification.Case

/-! Settings: what the command line says, else what the configuration file says, else the
default. -/
namespace StyleSnapshot

/-- What the command line may set. -/
structure Overrides where
  fixtureDirectory : Option Path := none
  fixtureGlob : Option Text := none
  groupFilter : Option Text := none
  proximity : Option Nat := none
  lookahead : Option Nat := none
  failureLimit : Option Nat := none
  duplicates : Option DuplicatePolicy := none
  compiler : Option Command := none
  deriving DecidableEq, Repr

structure Settings where
  fixtureDirectory : Path
  fixtureGlob : Text
  groupFilter : Option Text
  windows : Fixture.Windows
  failureLimit : Nat
  duplicates : DuplicatePolicy
  compiler : Option Command
  deriving DecidableEq, Repr

namespace Settings

def defaultFile : Path := "snapverify.toml".toList

def defaultDirectory : Path := "fixtures".toList

def defaultGlob : Text := "*.test.ts".toList

def defaultFailureLimit : Nat := 20

/-- Settings from a configuration and the overrides that take precedence over it. -/
def resolve (c : Config) (o : Overrides) : Settings :=
  let windows : Fixture.Windows := {}
  { fixtureDirectory := (o.fixtureDirectory.or c.fixtureDirectory).getD defaultDirectory
    fixtureGlob := (o.fixtureGlob.or c.fixtureGlob).getD defaultGlob
    groupFilter := o.groupFilter
    windows :=
      { proximity := (o.proximity.or c.proximity).getD windows.proximity
        lookahead := (o.lookahead.or c.lookahead).getD windows.lookahead }
    failureLimit := (o.failureLimit.or c.failureLimit).getD defaultFailureLimit
    duplicates := (o.duplicates.or c.duplicates).getD .merge
    compiler := o.compiler.or c.compiler }

/-- A pattern on the names of groups. -/
def filterPattern (source : Text) : Except Problem Glob.Pattern :=
  match Glob.parse source with
  | .ok pattern => .ok pattern
  | .error e => .error (.invalidFilterPattern source e.message)

/-- The pattern that the names of groups must match, if there is one. -/
def groupPattern (s : Settings) : Except Problem (Option Glob.Pattern) :=
  match s.groupFilter with
  | none => .ok none
  | some source => (filterPattern source).map some

def runOptions (s : Settings) : Except Problem RunOptions :=
  s.groupPattern.map fun filter => ⟨s.windows, s.duplicates, filter⟩

end Settings

/-- Reads the configuration file at a path. -/
def Config.read (tree : FileTree) (path : Path) : Except Problem Config :=
  match tree.readText path with
  | .error e => .error (.unreadable path e.message)
  | .ok t =>
    match Config.parse path t with
    | .ok c => .ok c
    | .error e => .error (.invalidConfig path e.message)

/-- The configuration: the file that is asked for, or else the default file if it is
there. -/
def Config.load (tree : FileTree) : Option Path → Except Problem Config
  | some path => Config.read tree path
  | none =>
    if tree.isFile Settings.defaultFile then Config.read tree Settings.defaultFile else .ok {}

end StyleSnapshot
