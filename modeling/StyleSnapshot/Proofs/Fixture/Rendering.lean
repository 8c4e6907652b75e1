import StyleSnapshot.Fixture.Case
import StyleSnapshot.Proofs.Snapshot.References
import StyleSnapshot.Proofs.Snapshot.Template
import StyleSnapshot.Proofs.Text.Lines

/-! Fixtures as a generator writes them.

A rendered fixture is a list of tests, one after the other, and a test is a list of
assertions, each on a line of its own unless it holds a snapshot. `cases` says what such a
fixture contains: every assertion that has tokens, with its line, numbered within its
test. The lemmas here are about the pieces the text is made of, apart from any scanner. -/
namespace StyleSnapshot.Fixture.Rendering
open Snapshot

/-! ### What is rendered -/

/-- A stylesheet that a snapshot can hold as it is. -/
structure Css where
  text : Text
  ne : text ≠ []
  trimmed : Text.trim text = text
  balanced : Balanced text
  /-- There is no reference block in it. -/
  clear : Text.Clear afterReference? none text []

structure Token where
  text : Text
  plain : ∀ c ∈ text, c ≠ '\'' ∧ c ≠ '\\' ∧ c ≠ '\r' ∧ c ≠ '\n' ∧ c ≠ '\x7b' ∧ c ≠ '\x7d'

structure Assertion where
  tokens : List Token
  /-- The stylesheet that is expected; none if the output is to be empty. -/
  css : Option Css

structure Group where
  name : Text
  assertions : List Assertion
  name_plain : ∀ c ∈ name, c ≠ '\'' ∧ c ≠ '\r' ∧ c ≠ '\n' ∧ c ≠ '\x7b' ∧ c ≠ '\x7d'
  /-- The name does not look like an assertion. -/
  name_anchor : ¬ anchorText <:+: name

/-! ### The text -/

/-- A text as a template literal writes it. -/
def escape : Text → Text
  | [] => []
  | c :: t => if isEscapable c then '\\' :: c :: escape t else c :: escape t

/-- The body of the snapshot of a stylesheet. -/
def Css.body (s : Css) : Text := '\n' :: '"' :: escape s.text ++ ['"', '\n']

def Token.quoted (t : Token) : Text := '\'' :: t.text ++ ['\'']

/-- The inside of an array of tokens. -/
def array : List Token → Text
  | [] => []
  | [t] => t.quoted
  | t :: more => t.quoted ++ ", ".toList ++ array more

def indent : Text := [' ', ' ']

/-- What stands in front of an array. -/
def opening : Text := "expect(await run([".toList

def toBeEmpty : Text := ")).toEqual('')".toList

def toMatch : Text := ")).toMatchInlineSnapshot(\x60".toList

/-- What stands behind an array, up to the end of what is read of it. -/
def marker : Option Css → Text
  | none => toBeEmpty
  | some s => toMatch ++ s.body ++ ['\x60']

/-- What stands between a marker and the next line. -/
def behindMarker : Option Css → Text
  | none => ['\n']
  | some _ => [')', '\n']

namespace Assertion
variable (a : Assertion)

def text : Text :=
  indent ++ opening ++ array a.tokens ++ ']' :: marker a.css ++ behindMarker a.css

end Assertion

def testOpening : Text := "test('".toList

def bodyOpening : Text := "', async () => \x7b".toList

def footer : Text := ['\x7d', ')']

namespace Group
variable (g : Group)

/-- The line that declares the test. -/
def header : Text := testOpening ++ g.name ++ bodyOpening

def body : Text := g.assertions.flatMap Assertion.text

def text : Text := g.header ++ '\n' :: g.body ++ footer ++ ['\n']

end Group

/-- The fixture of some groups. -/
def render (groups : List Group) : Text := groups.flatMap Group.text

/-! ### The cases -/

def Assertion.expectation (a : Assertion) : Expectation :=
  match a.css with
  | none => .empty
  | some s => .css s.text

/-- The cases of some assertions of a group, the first of which stands on the given line and
has the given number if it is a case. -/
def casesOf (group : Text) (line ordinal : Nat) : List Assertion → List TestCase
  | [] => []
  | a :: more =>
    if a.tokens = [] then casesOf group (line + Text.newlines a.text) ordinal more
    else ⟨group, ordinal, line, a.tokens.map (·.text), a.expectation⟩ ::
      casesOf group (line + Text.newlines a.text) (ordinal + 1) more

/-- The cases of some groups, the first of which begins on the given line. -/
def casesFrom (line : Nat) : List Group → List TestCase
  | [] => []
  | g :: more =>
    casesOf g.name (line + 1) 0 g.assertions ++ casesFrom (line + Text.newlines g.text) more

/-! ### Escapes -/

theorem not_escapable {c : Char} (h : isEscapable c = false) : c ≠ '\\' ∧ c ≠ '\x60' ∧ c ≠ '$' := by
  simpa [isEscapable, and_assoc] using h

theorem spells_escape (t : Text) : Spells t (escape t) := by
  induction t with
  | nil => exact .nil
  | cons c t ih =>
    rw [escape]
    split
    · next hc => exact .escaped hc ih
    · next hc =>
      obtain ⟨h1, h2, -⟩ := not_escapable (Bool.eq_false_iff.2 hc)
      exact .plain h1 h2 ih

theorem unescape_escape (t x : Text) : unescape (escape t ++ x) = t ++ unescape x :=
  (spells_escape t).unescape_append x

/-- No escaped text ends the literal it stands in. -/
theorem closingQuote?_escape (t x : Text) : closingQuote? '\\' '\x60' false (escape t ++ x) =
    (closingQuote? '\\' '\x60' false x).map ((escape t).length + ·) :=
  (spells_escape t).closingQuote?_append x

theorem depth?_escape (t : Text) (d : Nat) : depth? d (escape t) = depth? d t := by
  induction t generalizing d with
  | nil => rfl
  | cons c t ih =>
    by_cases hc : isEscapable c = true
    · have h1 : c ≠ '\x7b' := fun h => absurd (h ▸ hc) (by decide)
      have h2 : c ≠ '\x7d' := fun h => absurd (h ▸ hc) (by decide)
      simp [escape, hc, depth?, h1, h2, ih]
    · rw [Bool.not_eq_true] at hc
      simp only [escape, hc, Bool.false_eq_true, if_false, depth?, ih]

/-! ### Braces -/

theorem depth?_of_plain {t : Text} (h : ∀ c ∈ t, c ≠ '\x7b' ∧ c ≠ '\x7d') (d : Nat) :
    depth? d t = some d :=
  depth?_of_not_mem (fun hmem => (h _ hmem).1 rfl) (fun hmem => (h _ hmem).2 rfl) d

theorem mem_array {ts : List Token} {c : Char} (h : c ∈ array ts) :
    c = '\'' ∨ c = ',' ∨ c = ' ' ∨ ∃ t ∈ ts, c ∈ t.text := by
  induction ts with
  | nil => exact absurd h List.not_mem_nil
  | cons t more ih =>
    have quoted {c : Char} (h : c ∈ t.quoted) : c = '\'' ∨ c ∈ t.text := by
      simpa [Token.quoted, or_comm, or_assoc] using h
    cases more with
    | nil =>
      rcases quoted h with h | h
      · exact Or.inl h
      · exact Or.inr (Or.inr (Or.inr ⟨t, List.mem_cons_self, h⟩))
    | cons u more =>
      rcases List.mem_append.1 h with h | h
      · rcases List.mem_append.1 h with h | h
        · rcases quoted h with h | h
          · exact Or.inl h
          · exact Or.inr (Or.inr (Or.inr ⟨t, List.mem_cons_self, h⟩))
        · rcases List.mem_cons.1 h with h | h
          · exact Or.inr (Or.inl h)
          · exact Or.inr (Or.inr (Or.inl (List.mem_singleton.1 h)))
      · rcases ih h with h | h | h | ⟨v, hv, h⟩
        · exact Or.inl h
        · exact Or.inr (Or.inl h)
        · exact Or.inr (Or.inr (Or.inl h))
        · exact Or.inr (Or.inr (Or.inr ⟨v, List.mem_cons_of_mem _ hv, h⟩))

theorem array_plain (ts : List Token) :
    ∀ c ∈ array ts, c ≠ '\x7b' ∧ c ≠ '\x7d' ∧ c ≠ '\n' := by
  intro c hc
  rcases mem_array hc with rfl | rfl | rfl | ⟨t, -, hc⟩
  · decide
  · decide
  · decide
  · have := t.plain c hc
    exact ⟨this.2.2.2.2.1, this.2.2.2.2.2, this.2.2.2.1⟩

theorem depth?_marker (css : Option Css) (d : Nat) : depth? d (marker css) = some d := by
  cases css with
  | none => rfl
  | some s =>
    have h1 : depth? d toMatch = some d := rfl
    have h2 : depth? d s.body = some d := by
      show depth? d (escape s.text ++ ['"', '\n']) = some d
      rw [depth?_append, depth?_escape, s.balanced.depth? d]
      rfl
    rw [marker, depth?_append, depth?_append, h1, Option.bind_some, h2]
    rfl

theorem depth?_text (a : Assertion) (d : Nat) : depth? d a.text = some d := by
  have h1 : depth? d (indent ++ opening) = some d := rfl
  have h2 : depth? d (array a.tokens) = some d :=
    depth?_of_plain (fun c hc => ⟨(array_plain _ c hc).1, (array_plain _ c hc).2.1⟩) d
  have h3 : depth? d (']' :: marker a.css ++ behindMarker a.css) = some d := by
    show depth? d (marker a.css ++ behindMarker a.css) = some d
    rw [depth?_append, depth?_marker, Option.bind_some]
    cases a.css <;> rfl
  rw [Assertion.text, List.append_assoc, depth?_append, depth?_append _ (indent ++ opening), h1,
    Option.bind_some, h2, Option.bind_some, h3]

theorem balanced_body (g : Group) : Balanced g.body := by
  rw [Group.body]
  induction g.assertions with
  | nil => rfl
  | cons a more ih =>
    rw [List.flatMap_cons, Balanced, depth?_append, depth?_text]
    exact ih

/-! ### Lines -/

theorem whole_text (a : Assertion) : Text.Whole a.text := by
  refine Or.inr ?_
  cases hcss : a.css with
  | none => exact ⟨indent ++ opening ++ array a.tokens ++ ']' :: toBeEmpty, by
      simp [Assertion.text, hcss, marker, behindMarker]⟩
  | some s => exact ⟨indent ++ opening ++ array a.tokens ++ ']' :: marker (some s) ++ [')'], by
      simp [Assertion.text, hcss, behindMarker]⟩

theorem whole_body (g : Group) : Text.Whole g.body := by
  rw [Group.body]
  induction g.assertions with
  | nil => exact Or.inl rfl
  | cons a more ih => exact (whole_text a).append ih

theorem header_line (g : Group) : '\n' ∉ g.header := by
  intro h
  rcases List.mem_append.1 h with h | h
  · rcases List.mem_append.1 h with h | h
    · exact absurd h (by decide)
    · exact (g.name_plain _ h).2.2.1 rfl
  · exact absurd h (by decide)

theorem depth?_header (g : Group) : depth? 0 g.header = some 1 := by
  have hname : depth? 0 g.name = some 0 :=
    depth?_of_plain (fun c hc => (g.name_plain c hc).2.2.2) 0
  have h1 : depth? 0 testOpening = some 0 := rfl
  have h2 : depth? 0 bodyOpening = some 1 := rfl
  rw [Group.header, depth?_append, depth?_append, h1, Option.bind_some, hname, Option.bind_some, h2]

theorem newlines_text (g : Group) : Text.newlines g.text = Text.newlines g.body + 2 := by
  have h1 : Text.newlines g.header = 0 := Text.newlines_of_not_mem (header_line g)
  have h2 : Text.newlines footer = 0 := rfl
  have h3 : Text.newlines ['\n'] = 1 := rfl
  have h4 : Text.newlines ('\n' :: g.body) = Text.newlines g.body + 1 := List.count_cons_self
  rw [Group.text, Text.newlines_append, Text.newlines_append, Text.newlines_append, h1, h2, h3, h4]
  omega

end StyleSnapshot.Fixture.Rendering
