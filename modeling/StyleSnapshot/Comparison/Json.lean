import StyleSnapshot.Comparison.Basic
import StyleSnapshot.Json

/-! Comparisons in structured output. -/
namespace StyleSnapshot

def Declaration.toJson (d : Declaration) : Json :=
  .record [("property", .string d.property), ("value", .string d.value)]

def ValueDifference.toJson (d : ValueDifference) : Json :=
  .record [("expected", .string d.expected), ("actual", .string d.actual),
    ("tolerated", .bool d.tolerated)]

/-- A dictionary as an object with one member for each key. -/
def Dictionary.toJson (d : Dictionary β) (value : β → Json) : Json :=
  .object (d.entries.map fun e => (e.1, value e.2))

namespace Comparison

def declarationsJson (ds : List Declaration) : Json := .array (ds.map (·.toJson))

def toJson (c : Comparison) : Json :=
  .record ([("passed", .bool c.passed),
    ("missing_selectors", c.missing.toJson declarationsJson),
    ("extra_selectors", c.extra.toJson declarationsJson),
    ("value_differences", c.differences.toJson fun d => d.toJson ValueDifference.toJson)] ++
    if c.unparsed.isEmpty then [] else [("unparsed_expected", .ofTexts c.unparsed)])

end Comparison
end StyleSnapshot
