import StyleSnapshot.Text.Blank

/-! Test declarations.

A test is declared on one line: `test` or `it` with any modifiers, an opening
parenthesis, the quoted name of the test, a comma, and somewhere behind it the brace that
opens the body. -/
namespace StyleSnapshot.Fixture

/-- The modifiers that may follow `test`, each behind a dot. -/
def modifiers : List Text :=
  [".only".toList, ".skip".toList, ".concurrent".toList, ".todo".toList]

/-- What follows a modifier that stands here. -/
def afterModifier? (t : Text) : Option Text := modifiers.findSome? (Text.after? · t)

theorem afterModifier?_length {t rest : Text} (h : afterModifier? t = some rest) :
    rest.length < t.length := by
  obtain ⟨lead, hl, h⟩ := List.exists_of_findSome?_eq_some h
  have hlen := Text.after?_length h
  have : 0 < lead.length := by
    simp only [modifiers, List.mem_cons, List.not_mem_nil, or_false] at hl
    rcases hl with rfl | rfl | rfl | rfl <;> decide
  omega

def afterModifiers (t : Text) : Text :=
  match _h : afterModifier? t with
  | some rest => afterModifiers rest
  | none => t
termination_by t.length
decreasing_by exact afterModifier?_length _h

/-- A quoted text at the front and what follows it; the quote that opens it closes it. -/
def quotedName? : Text → Option (Text × Text)
  | [] => none
  | q :: rest =>
    if q = '\'' || q = '"' || q = '\x60' then
      match rest.dropWhile (· ≠ q) with
      | [] => none
      | _ :: following => some (rest.takeWhile (· ≠ q), following)
    else none

/-- The names of the functions that declare a test. -/
def declarators : List Text := ["test".toList, "it".toList]

/-- The name of the test that a line declares. -/
def declaredName? (line : Text) : Option Text := do
  let call ← declarators.findSome? (Text.after? · (Text.trimStart line))
  let arguments ← Text.after? ['('] (afterModifiers call)
  let (name, following) ← quotedName? (Text.trimStart arguments)
  let body ← Text.after? [','] (Text.trimStart following)
  if '\x7b' ∈ body then some name else none

end StyleSnapshot.Fixture
