import StyleSnapshot.Text.Blank

/-! Comments of a stylesheet.

A comment reaches from `/*` to the next `*/` behind it, or to the end of the text when
there is none. Comments are passed over between blocks and inside the body of a rule. -/
namespace StyleSnapshot.Stylesheet

def commentOpen : Text := ['/', '*']

def commentClose : Text := ['*', '/']

/-- The text from the first character on that is neither blank nor in a comment. -/
def skipTrivia (t : Text) : Text :=
  let trimmed := Text.trimStart t
  match _h : Text.after? commentOpen trimmed with
  | none => trimmed
  | some inside =>
    match _h' : Text.cut? commentClose inside with
    | none => []
    | some (_, following) => skipTrivia following
termination_by t.length
decreasing_by
  have h1 := Text.after?_length _h
  have h2 := Text.cut?_length _h'
  have h3 := Text.length_dropWhile_le isBlank t
  have : commentOpen.length = 2 := rfl
  simp only [trimmed, Text.trimStart] at h1
  omega

theorem skipTrivia_of_none {t : Text} (h : Text.after? commentOpen (Text.trimStart t) = none) :
    skipTrivia t = Text.trimStart t := by
  rw [skipTrivia]
  split
  · rfl
  · next h' => exact absurd (h'.symm.trans h) (Option.some_ne_none _)

/-- A comment that is never closed reaches to the end. -/
theorem skipTrivia_of_open {t inside : Text}
    (h : Text.after? commentOpen (Text.trimStart t) = some inside)
    (hcut : Text.cut? commentClose inside = none) : skipTrivia t = [] := by
  rw [skipTrivia]
  split
  · next h' => exact absurd (h.symm.trans h') (Option.some_ne_none _)
  · next h' =>
    obtain rfl := Option.some.inj (h.symm.trans h')
    split
    · rfl
    · next h'' => exact absurd (h''.symm.trans hcut) (Option.some_ne_none _)

theorem skipTrivia_of_closed {t inside comment following : Text}
    (h : Text.after? commentOpen (Text.trimStart t) = some inside)
    (hcut : Text.cut? commentClose inside = some (comment, following)) :
    skipTrivia t = skipTrivia following := by
  rw [skipTrivia]
  split
  · next h' => exact absurd (h.symm.trans h') (Option.some_ne_none _)
  · next h' =>
    obtain rfl := Option.some.inj (h.symm.trans h')
    split
    · next h'' => exact absurd (hcut.symm.trans h'') (Option.some_ne_none _)
    · next h'' =>
      obtain ⟨-, rfl⟩ := Prod.mk.inj (Option.some.inj (hcut.symm.trans h''))
      rfl

/-- A text without its comments. -/
def stripComments (t : Text) : Text :=
  match _h : Text.cut? commentOpen t with
  | none => t
  | some (before, inside) =>
    match _h' : Text.cut? commentClose inside with
    | none => before
    | some (_, following) => before ++ stripComments following
termination_by t.length
decreasing_by
  have h1 := Text.cut?_length _h
  have h2 := Text.cut?_length _h'
  have : commentOpen.length = 2 := rfl
  omega

theorem skipTrivia_length_le (t : Text) : (skipTrivia t).length ≤ t.length := by
  fun_induction skipTrivia t with
  | case1 t trimmed h => exact Text.length_dropWhile_le isBlank t
  | case2 => simp
  | case3 t trimmed inside h skipped following h' ih =>
    have h1 := Text.after?_length h
    have h2 := Text.cut?_length h'
    have h3 := Text.length_dropWhile_le isBlank t
    simp only [trimmed, Text.trimStart] at h1
    omega

end StyleSnapshot.Stylesheet
