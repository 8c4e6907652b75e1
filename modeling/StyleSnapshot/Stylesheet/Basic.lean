import StyleSnapshot.Text.Basic

/-! Stylesheets as a comparison sees them.

A stylesheet is a list of flat rules and, aside, the text of every block that is not
flat. Within a rule the last declaration of a property is the effective one. -/
namespace StyleSnapshot

/-- What becomes of a selector that a stylesheet repeats. -/
inductive DuplicatePolicy where
  /-- Later declarations are added to the earlier ones. -/
  | merge
  /-- The later block replaces the earlier one. -/
  | lastWins
  deriving DecidableEq, Repr

structure Declaration where
  property : Text
  value : Text
  deriving DecidableEq, Repr

structure Rule where
  selector : Text
  declarations : List Declaration
  deriving DecidableEq, Repr

namespace Rule

/-- The effective value of a property. -/
def value? (r : Rule) (property : Text) : Option Text :=
  (r.declarations.reverse.find? (·.property = property)).map (·.value)

/-- The properties that are declared, each once, in order of first appearance. -/
def properties (r : Rule) : List Text := (r.declarations.map (·.property)).eraseDups

/-- The rule with the declarations of a further block for its selector. -/
def extend (policy : DuplicatePolicy) (r : Rule) (declarations : List Declaration) : Rule :=
  match policy with
  | .merge => { r with declarations := r.declarations ++ declarations }
  | .lastWins => { r with declarations := declarations }

end Rule

structure Stylesheet where
  rules : List Rule
  /-- Conditional and nested blocks, each as text with single spaces. -/
  unparsed : List Text
  deriving DecidableEq, Repr

namespace Stylesheet

def empty : Stylesheet := ⟨[], []⟩

/-- The rule of a selector. -/
def rule? (s : Stylesheet) (selector : Text) : Option Rule :=
  s.rules.find? (·.selector = selector)

def isEmpty (s : Stylesheet) : Bool := s.rules.isEmpty && s.unparsed.isEmpty

/-- The rules with one more block: it extends the rule of its selector where there is
one, and otherwise comes last. -/
def addRule (policy : DuplicatePolicy) (new : Rule) : List Rule → List Rule
  | [] => [new]
  | r :: rest =>
    if r.selector = new.selector then r.extend policy new.declarations :: rest
    else r :: addRule policy new rest

end Stylesheet
end StyleSnapshot
