import StyleSnapshot.Fixture.Case
import StyleSnapshot.Json

/-! Cases in structured output. -/
namespace StyleSnapshot.Fixture

/-- The members that tell an expectation: its kind, and the stylesheet if there is one. -/
def Expectation.members (e : Expectation) : List (Text × Json) :=
  ("kind".toList, .string e.label) ::
    match e with
    | .css expected => [("expected_css".toList, .string expected)]
    | .empty | .deferred => []

def TestCase.toJson (c : TestCase) : Json :=
  .object ([("group_name".toList, .string c.group), ("ordinal".toList, .ofNat c.ordinal),
    ("line".toList, .ofNat c.line), ("input_tokens".toList, .ofTexts c.tokens)] ++
    c.expectation.members)

end StyleSnapshot.Fixture
