import StyleSnapshot.Delimiter
import StyleSnapshot.Stylesheet.Basic
import StyleSnapshot.Stylesheet.Comment

/-! The pieces of a stylesheet.

Comments aside, a stylesheet is cut into blocks, each a prelude, an opening brace and the
text up to the matching brace. A block is a rule when it is flat and its prelude is a
plain selector; a conditional or nested block is kept as text. What a closing brace too
many ends is not part of a prelude. Text behind the last block is no piece. -/
namespace StyleSnapshot.Stylesheet

/-- What one block of a stylesheet is. -/
inductive Piece where
  | rule (r : Rule)
  /-- A block that is not flat, as text with single spaces. -/
  | unparsed (t : Text)
  /-- A flat block without a selector. -/
  | anonymous
  deriving DecidableEq, Repr

/-- The part of a prelude behind its last stray closing brace, trimmed. -/
def selectorOf (prelude : Text) : Text :=
  Text.trim (prelude.reverse.takeWhile (· ≠ '\x7d')).reverse

/-- The declaration an entry between semicolons makes. -/
def declaration? (entry : Text) : Option Declaration :=
  match Text.cut? [':'] entry with
  | none => none
  | some (name, value) =>
    let property := Text.trim name
    if property = [] then none else some ⟨property, Text.trim value⟩

/-- The declarations of the body of a flat block. -/
def declarations (body : Text) : List Declaration :=
  ((stripComments body).splitOn ';').filterMap declaration?

/-- The piece that a block with the given prelude and body is. -/
def Piece.ofBlock (prelude body : Text) : Piece :=
  let selector := selectorOf prelude
  if selector.head? = some '@' ∨ '\x7b' ∈ body then
    .unparsed (Text.collapse (prelude ++ '\x7b' :: body ++ ['\x7d']))
  else if selector = [] then .anonymous
  else .rule ⟨selector, declarations body⟩

/-- The first piece and the text behind it. A block that is never closed reaches to the
end of the text and is kept as it stands. -/
def nextPiece? (t : Text) : Option (Piece × Text) :=
  let start := skipTrivia t
  match start.dropWhile (· ≠ '\x7b') with
  | [] => none
  | _ :: inside =>
    match closing? (Marks.chars.under .literal) .braces .plain 0 inside with
    | none => some (.unparsed (Text.collapse start), [])
    | some n =>
      some (.ofBlock (start.takeWhile (· ≠ '\x7b')) (inside.take n), inside.drop (n + 1))

theorem nextPiece?_length {t rest : Text} {piece : Piece} (h : nextPiece? t = some (piece, rest)) :
    rest.length < t.length := by
  simp only [nextPiece?] at h
  have h1 := Text.length_dropWhile_le (fun c => decide (c ≠ '\x7b')) (skipTrivia t)
  have h2 := skipTrivia_length_le t
  split at h
  · simp at h
  · next c inside hi =>
    rw [hi] at h1
    simp only [List.length_cons] at h1
    split at h <;> simp only [Option.some.injEq, Prod.mk.injEq] at h <;> rw [← h.2]
    · simp only [List.length_nil]
      omega
    · simp only [List.length_drop]
      omega

/-- The pieces of a stylesheet in the order of the text. -/
def pieces (t : Text) : List Piece :=
  match _h : nextPiece? t with
  | none => []
  | some (piece, rest) => piece :: pieces rest
termination_by t.length
decreasing_by exact nextPiece?_length _h

theorem pieces_of_none {t : Text} (h : nextPiece? t = none) : pieces t = [] := by
  rw [pieces]
  split
  · rfl
  · next h' => exact absurd (h'.symm.trans h) (Option.some_ne_none _)

theorem pieces_of_some {t rest : Text} {piece : Piece} (h : nextPiece? t = some (piece, rest)) :
    pieces t = piece :: pieces rest := by
  rw [pieces]
  split
  · next h' => exact absurd (h.symm.trans h') (Option.some_ne_none _)
  · next h' =>
    obtain ⟨rfl, rfl⟩ := Prod.mk.inj (Option.some.inj (h.symm.trans h'))
    rfl

/-- The stylesheet with one more piece. -/
def add (policy : DuplicatePolicy) (s : Stylesheet) : Piece → Stylesheet
  | .rule r => { s with rules := addRule policy r s.rules }
  | .unparsed t => { s with unparsed := s.unparsed ++ [t] }
  | .anonymous => s

/-- Reads a stylesheet; every text is one. -/
def parse (policy : DuplicatePolicy) (t : Text) : Stylesheet :=
  (pieces t).foldl (add policy) empty

end StyleSnapshot.Stylesheet
