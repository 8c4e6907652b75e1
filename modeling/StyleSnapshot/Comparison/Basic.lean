import StyleSnapshot.Comparison.Equivalence
import StyleSnapshot.Dictionary
import StyleSnapshot.Stylesheet.Basic

/-! Comparing the expected stylesheet with the actual one.

Every rule that is expected has to be there, and every effective value it declares has to
be matched by the effective value of the actual rule. Rules and properties beyond that
are no fault; additional rules are listed. -/
namespace StyleSnapshot

structure ValueDifference where
  expected : Text
  actual : Text
  /-- Accepted because the actual value defers to a custom property. -/
  tolerated : Bool
  deriving DecidableEq, Repr

structure Comparison where
  /-- The expected rules that are missing, by selector. -/
  missing : Dictionary (List Declaration)
  /-- The rules nobody expects, by selector. -/
  extra : Dictionary (List Declaration)
  /-- The values that differ, by selector and property. -/
  differences : Dictionary (Dictionary ValueDifference)
  /-- The expected blocks that take no part in the comparison. -/
  unparsed : List Text
  deriving DecidableEq

namespace Comparison

/-- What stands for the value of a property that is not declared. -/
def missingValue : Text := "(missing)".toList

/-- The difference between an expected value and the actual one, if there is any. -/
def difference? (expected : Text) : Option Text → Option ValueDifference
  | none => some ⟨expected, missingValue, false⟩
  | some actual =>
    match Equivalence.ofValues expected actual with
    | .exact | .normalized => none
    | .dynamicReference => some ⟨expected, actual, true⟩
    | .mismatch => some ⟨expected, actual, false⟩

/-- The differing values of a rule, by property. -/
def ruleDifferences (expected actual : Rule) : Dictionary ValueDifference :=
  .ofList (expected.properties.filterMap fun property => do
    let value ← expected.value? property
    let difference ← difference? value (actual.value? property)
    some (property, difference))

/-- The rules of one stylesheet whose selectors another one lacks, by selector. -/
def rulesWithout (s other : Stylesheet) : Dictionary (List Declaration) :=
  .ofList ((s.rules.filter fun r => (other.rule? r.selector).isNone).map fun r =>
    (r.selector, r.declarations))

def ofStylesheets (expected actual : Stylesheet) : Comparison where
  missing := rulesWithout expected actual
  extra := rulesWithout actual expected
  differences := .ofList (expected.rules.filterMap fun r => do
    let found ← actual.rule? r.selector
    let differing := ruleDifferences r found
    if differing.isEmpty then none else some (r.selector, differing))
  unparsed := expected.unparsed

/-- The differences that are not tolerated, with selector and property, in ascending
order of these. -/
def failing (c : Comparison) : List (Text × Text × ValueDifference) :=
  c.differences.entries.flatMap fun (selector, properties) =>
    (properties.entries.filter fun e => !e.2.tolerated).map fun (property, difference) =>
      (selector, property, difference)

/-- Whether nothing that is expected is missing or different. -/
def passed (c : Comparison) : Bool := c.missing.isEmpty && c.failing.isEmpty

end Comparison
end StyleSnapshot
