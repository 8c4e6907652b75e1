import StyleSnapshot.Fixture.Assertion
import StyleSnapshot.Fixture.Block

/-! The test cases of a fixture: every assertion that could be read, by its block, its
number among the cases of the block, and the line of its anchor. -/
namespace StyleSnapshot.Fixture

structure TestCase where
  /-- The name of the test that holds the assertion. -/
  group : Text
  /-- The number of the case within its block, counted from zero. -/
  ordinal : Nat
  /-- The line of the anchor, counted from one. -/
  line : Nat
  tokens : List Text
  expectation : Expectation
  deriving DecidableEq, Repr

/-- The assertions of a block that could be read, with the places of their anchors. -/
def assertions (windows : Windows) (t : Text) : List (Nat × Reading) :=
  (rounds windows t 0).filterMap fun r => r.reading.map (r.anchor, ·)

namespace TestBlock

/-- The case of the assertion whose anchor is at the given place. -/
def caseAt (b : TestBlock) (ordinal anchor : Nat) (reading : Reading) : TestCase where
  group := b.name
  ordinal := ordinal
  line := b.startLine + Text.newlines (b.text.take anchor)
  tokens := reading.tokens
  expectation := reading.expectation

def cases (windows : Windows) (b : TestBlock) : List TestCase :=
  (assertions windows b.text).zipIdx.map fun ((anchor, reading), ordinal) =>
    b.caseAt ordinal anchor reading

end TestBlock

/-- The cases of a fixture in the order of the text. -/
def cases (windows : Windows) (source : Text) : List TestCase :=
  (blocks source).flatMap (TestBlock.cases windows)

end StyleSnapshot.Fixture
