import StyleSnapshot.Text.Blank

/-! When a declared value is as good as the expected one. -/
namespace StyleSnapshot

/-- How an actual value relates to the expected one. -/
inductive Equivalence where
  /-- The same text. -/
  | exact
  /-- The same but for blanks and the case of ASCII letters. -/
  | normalized
  /-- The actual value defers to a custom property, whatever is expected. -/
  | dynamicReference
  | mismatch
  deriving DecidableEq, Repr

namespace Equivalence

def isMatch (e : Equivalence) : Bool := e != .mismatch

def label : Equivalence → Text
  | .exact => "exact".toList
  | .normalized => "normalized".toList
  | .dynamicReference => "dynamic_reference".toList
  | .mismatch => "mismatch".toList

/-- The text in the form in which blanks and case do not count. -/
def normalForm (t : Text) : Text := (Text.collapse t).map Char.toLower

/-- The characters of the name of a custom property. -/
def isNameChar (c : Char) : Bool := c.isAlphanum || c = '_' || c = '-'

/-- What follows a reference to a custom property at the front. -/
def afterReference? (t : Text) : Option Text :=
  match Text.after? "var(--".toList t with
  | none => none
  | some name =>
    if name.takeWhile isNameChar = [] then none
    else Text.after? [')'] (name.dropWhile isNameChar)

/-- Whether a value is one reference, or a calculation that begins with a reference and
is closed at the end of its only line. -/
def isDynamicReference (t : Text) : Bool :=
  afterReference? t = some [] ||
    match (Text.after? "calc(".toList t).bind afterReference? with
    | none => false
    | some tail => tail.getLast? = some ')' && !tail.contains '\n'

/-- How `actual` relates to `expected`: the first relation that holds. -/
def ofValues (expected actual : Text) : Equivalence :=
  if expected = actual then .exact
  else if normalForm expected = normalForm actual then .normalized
  else if isDynamicReference (Text.trim actual) then .dynamicReference
  else .mismatch

end Equivalence

def valuesMatch (expected actual : Text) : Bool := (Equivalence.ofValues expected actual).isMatch

end StyleSnapshot
