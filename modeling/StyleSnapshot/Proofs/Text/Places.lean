import StyleSnapshot.Text.Basic

/-! Text in which nothing is recognized.

A recognizer looks at one place of a text: it is given the character before the place, if
there is one, and the text from there on. `Clear` says that it answers nowhere in a
stretch of text, although it may look beyond the end of the stretch. -/
namespace StyleSnapshot.Text

section Places
variable {β : Type} (recognize : Option Char → Text → Option β)

/-- The last character of a text, or what stands in front if it is empty. -/
def endOf : Option Char → Text → Option Char
  | before, [] => before
  | _, c :: t => endOf (some c) t

/-- Nothing is recognized in `t`, where `before` stands in front and `rest` behind. -/
def Clear : Option Char → Text → Text → Prop
  | _, [], _ => True
  | before, c :: t, rest => recognize before (c :: t ++ rest) = none ∧ Clear (some c) t rest

/-- Whether a text is clear can be computed. -/
instance decidableClear : (before : Option Char) → (t rest : Text) →
    Decidable (Clear recognize before t rest)
  | _, [], _ => .isTrue trivial
  | before, c :: t, rest =>
    have := decidableClear (some c) t rest
    inferInstanceAs (Decidable
      (recognize before (c :: t ++ rest) = none ∧ Clear recognize (some c) t rest))

theorem endOf_append (before : Option Char) (a b : Text) :
    endOf before (a ++ b) = endOf (endOf before a) b := by
  induction a generalizing before with
  | nil => rfl
  | cons c a ih => exact ih (some c)

theorem endOf_concat (before : Option Char) (t : Text) (c : Char) :
    endOf before (t ++ [c]) = some c := endOf_append before t [c]

variable {recognize}

theorem clear_append {before : Option Char} {a b rest : Text} :
    Clear recognize before (a ++ b) rest ↔
      Clear recognize before a (b ++ rest) ∧ Clear recognize (endOf before a) b rest := by
  induction a generalizing before with
  | nil => exact ⟨fun h => ⟨trivial, h⟩, fun h => h.2⟩
  | cons c a ih =>
    show (recognize before (c :: (a ++ b) ++ rest) = none ∧ Clear recognize (some c) (a ++ b) rest) ↔
      (recognize before (c :: a ++ (b ++ rest)) = none ∧ Clear recognize (some c) a (b ++ rest)) ∧
        Clear recognize (endOf (some c) a) b rest
    rw [ih, and_assoc]
    simp only [List.cons_append, List.append_assoc]

/-- Where nothing is recognized, nothing that would need it is. -/
theorem Clear.mono {γ : Type} {recognize' : Option Char → Text → Option γ}
    (h : ∀ before x, recognize before x = none → recognize' before x = none) {before : Option Char}
    {t rest : Text} (hclear : Clear recognize before t rest) : Clear recognize' before t rest := by
  induction t generalizing before with
  | nil => trivial
  | cons c t ih => exact ⟨h before _ hclear.1, ih hclear.2⟩

/-- Nothing is recognized wherever the stretch is split. -/
theorem clear_iff {before : Option Char} {t rest : Text} : Clear recognize before t rest ↔
    ∀ a c b, t = a ++ c :: b → recognize (endOf before a) (c :: b ++ rest) = none := by
  constructor
  · rintro h a c b rfl
    exact (clear_append.1 h).2.1
  · intro h
    induction t generalizing before with
    | nil => trivial
    | cons c t ih =>
      exact ⟨h [] c t rfl, ih fun a d b heq => h (c :: a) d b (congrArg (c :: ·) heq)⟩

/-- Nothing is recognized in text without a character with which that could begin. -/
theorem clear_of_head {t : Text} (h : ∀ c ∈ t, ∀ before x, recognize before (c :: x) = none)
    (before : Option Char) (rest : Text) : Clear recognize before t rest := by
  induction t generalizing before with
  | nil => trivial
  | cons c t ih =>
    exact ⟨h c List.mem_cons_self before _, ih (fun d hd => h d (List.mem_cons_of_mem c hd)) _⟩

end Places

end StyleSnapshot.Text
