import StyleSnapshot.Text.Blank
import StyleSnapshot.Text.Word

/-! The calls an assertion is made of.

An assertion begins at an anchor, the text `expect(` at the beginning of a word. It is
fed by a call: either `run([`, whose array holds the input tokens, or `compileCss(`,
which needs a theme. What it expects is told by a marker behind the call: an inline
snapshot, or a comparison with the empty text. Everything here looks at one place of a
text, given the character before it, and measures in characters. -/
namespace StyleSnapshot.Fixture

/-- The first place where `recognize` answers, and its answer. It is given the character
before the place, if there is one, and the text from there on. -/
def firstPlace? (recognize : Option Char → Text → Option β) (before : Option Char) :
    Text → Option (Nat × β)
  | [] => none
  | c :: rest =>
    match recognize before (c :: rest) with
    | some b => some (0, b)
    | none => (firstPlace? recognize (some c) rest).map fun found => (found.1 + 1, found.2)

/-- The first place where `recognize` answers, if it is at most `window` bytes on. -/
def firstPlaceWithin? (recognize : Option Char → Text → Option β) (window : Nat)
    (before : Option Char) : Text → Option (Nat × β)
  | [] => none
  | c :: rest =>
    match recognize before (c :: rest) with
    | some b => some (0, b)
    | none =>
      if c.utf8Size ≤ window then
        (firstPlaceWithin? recognize (window - c.utf8Size) (some c) rest).map fun found =>
          (found.1 + 1, found.2)
      else none

/-- The window only bounds the distance. -/
theorem firstPlaceWithin?_eq (recognize : Option Char → Text → Option β) (window : Nat)
    (before : Option Char) (t : Text) : firstPlaceWithin? recognize window before t =
      (firstPlace? recognize before t).filter fun found =>
        decide (Text.byteLength (t.take found.1) ≤ window) := by
  induction t generalizing window before with
  | nil => rfl
  | cons c rest ih =>
    simp only [firstPlaceWithin?, firstPlace?]
    split
    · rw [Option.filter_some, List.take_zero]
      exact (if_pos (decide_eq_true (Nat.zero_le window))).symm
    · rw [ih]
      cases h : firstPlace? recognize (some c) rest with
      | none => simp
      | some found =>
        by_cases hc : c.utf8Size ≤ window
        · simp only [hc, if_true, Option.filter_some, Option.map_some, List.take_succ_cons,
            Text.byteLength]
          by_cases hr : Text.byteLength (rest.take found.1) ≤ window - c.utf8Size
          · simp [hr, show c.utf8Size + Text.byteLength (rest.take found.1) ≤ window by omega]
          · simp [hr, show ¬ c.utf8Size + Text.byteLength (rest.take found.1) ≤ window by omega]
        · simp only [hc, if_false, Option.map_some, Option.filter_some, List.take_succ_cons,
            Text.byteLength]
          simp [show ¬ c.utf8Size + Text.byteLength (rest.take found.1) ≤ window by omega]

/-- The length of `lead`, some blanks and `opening`, when the text begins with these. -/
def opened? (lead : Text) (opening : Char) (t : Text) : Option Nat :=
  match Text.after? lead t with
  | none => none
  | some inside =>
    let blanks := (inside.takeWhile isBlank).length
    if (inside.drop blanks).head? = some opening then some (lead.length + blanks + 1) else none

/-! ### Anchors -/

def anchorText : Text := "expect(".toList

/-- The length of the anchor that stands here. -/
def anchor? (before : Option Char) (t : Text) : Option Nat :=
  if atWordStart before && Text.startsWith anchorText t then some anchorText.length else none

/-! ### Calls -/

/-- What feeds an assertion. -/
inductive CallKind where
  /-- A call whose first argument is an array of tokens. -/
  | tokenArray
  /-- A call that also takes a theme. -/
  | themed
  deriving DecidableEq, Repr

def runText : Text := "run(".toList

def compileText : Text := "compileCss(".toList

/-- The number of characters up to the inside of the array, for a token call that stands
here. -/
def tokenCall? (before : Option Char) (t : Text) : Option Nat :=
  if atWordStart before then opened? runText '[' t else none

/-- The number of characters up to the arguments, for a themed call that stands here. -/
def themedCall? (before : Option Char) (t : Text) : Option Nat :=
  if atWordStart before && Text.startsWith compileText t then some compileText.length else none

/-! ### Markers -/

def snapshotText : Text := ".toMatchInlineSnapshot(".toList

/-- The number of characters up to the inside of the snapshot, for a snapshot marker that
stands here. -/
def snapshotMarker? (t : Text) : Option Nat := opened? snapshotText '\x60' t

/-- The comparisons whose argument may be the empty text. -/
def comparisons : List Text :=
  [".toEqual(".toList, ".toBe(".toList, ".toStrictEqual(".toList]

/-- The ways to write the empty text. -/
def emptyLiterals : List Text := [['\'', '\''], ['"', '"'], ['\x60', '\x60']]

/-- What follows a comparison with the empty text that stands here. -/
def afterEmptyMarker? (t : Text) : Option Text := do
  let arguments ← comparisons.findSome? (Text.after? · t)
  let following ← emptyLiterals.findSome? (Text.after? · (Text.trimStart arguments))
  Text.after? [')'] (Text.trimStart following)

/-- The length of the comparison with the empty text that stands here. -/
def emptyMarker? (t : Text) : Option Nat :=
  (afterEmptyMarker? t).map fun rest => t.length - rest.length

end StyleSnapshot.Fixture
