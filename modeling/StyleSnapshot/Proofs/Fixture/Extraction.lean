import Mathlib.Data.List.Infix
import StyleSnapshot.Proofs.Fixture.Blocks
import StyleSnapshot.Proofs.Fixture.Reading

/-! Extraction undoes rendering.

Within a block the reader goes from anchor to anchor. It takes up an assertion at its
anchor and goes on behind what it read of it; of an assertion without tokens it reads the
anchor only, so that a snapshot behind it is searched for anchors like any other text.
`cases_render` therefore asks that no such snapshot holds one, and then says that the
cases of a rendered fixture are the assertions that have tokens. -/
namespace StyleSnapshot.Fixture.Rendering

/-! ### Where no anchor begins -/

theorem startsWith_escape {lead : Text} (h : ∀ c ∈ lead, Snapshot.isEscapable c = false ∧ c ≠ '"')
    (t x : Text) : Text.startsWith lead (escape t ++ '"' :: x) = Text.startsWith lead t := by
  rw [Text.startsWith, Text.startsWith]
  induction lead generalizing t with
  | nil => rfl
  | cons a lead ih =>
    have ha := h a List.mem_cons_self
    have hih := ih fun c hc => h c (List.mem_cons_of_mem a hc)
    cases t with
    | nil => simp [escape, Text.after?, ha.2]
    | cons c t =>
      by_cases hc : Snapshot.isEscapable c = true
      · have hac : a ≠ c := fun hac => by
          rw [hac, hc] at ha
          exact absurd ha.1 (by decide)
        have hslash : a ≠ '\\' := (not_escapable ha.1).1
        simp [escape, hc, Text.after?, hslash, hac]
      · rw [Bool.not_eq_true] at hc
        by_cases hac : a = c
        · simp [escape, hc, Text.after?, hac, hih]
        · simp [escape, hc, Text.after?, hac]

theorem anchorText_plain : ∀ c ∈ anchorText, Snapshot.isEscapable c = false ∧ c ≠ '"' := by
  show ∀ c ∈ "expect(".toList, _
  simp [Snapshot.isEscapable]

/-- Escaping makes no anchor. -/
theorem clear_escape {before : Option Char} {t : Text} (h : Text.Clear anchor? before t [])
    (x : Text) : Text.Clear anchor? before (escape t) ('"' :: x) := by
  induction t generalizing before with
  | nil => trivial
  | cons c t ih =>
    have hrest := ih h.2
    by_cases hc : Snapshot.isEscapable c = true
    · have hne : c ≠ 'e' := fun he => absurd (he ▸ hc) (by decide)
      simp only [escape, hc, if_true]
      exact ⟨anchor?_of_ne (by decide) _ _, anchor?_of_ne hne _ _, hrest⟩
    · have hfirst : anchor? before (escape (c :: t) ++ '"' :: x) = none := by
        have hnone : anchor? before (c :: t) = none := by
          have := h.1
          rwa [List.append_nil] at this
        rw [anchor?, startsWith_escape anchorText_plain]
        exact hnone
      rw [Bool.not_eq_true] at hc
      simp only [escape, hc, Bool.false_eq_true, if_false] at hfirst ⊢
      exact ⟨hfirst, hrest⟩

theorem clear_body {s : Css} (h : firstPlace? anchor? none s.text = none) (before : Option Char)
    (x : Text) : Text.Clear anchor? before s.body x := by
  have hquote : Text.Clear anchor? (some '"') s.text [] := by
    have hclear := firstPlace?_eq_none_iff.1 h
    -- A quote in front of a word is as good as nothing.
    cases hs : s.text with
    | nil => trivial
    | cons c t =>
      rw [hs] at hclear
      exact hclear
  have hsplit : s.body = ['\n', '"'] ++ (escape s.text ++ ['"', '\n']) := by simp [Css.body]
  rw [hsplit, Text.clear_append, Text.clear_append]
  exact ⟨clear_anchor (by decide) _ _, clear_escape hquote _, clear_anchor (by decide) _ _⟩

/-- An assertion that is passed over holds no anchor besides its own. -/
def Assertion.Single (a : Assertion) : Prop :=
  a.tokens = [] → ∀ s ∈ a.css, firstPlace? anchor? none s.text = none

theorem clear_marker {a : Assertion} (h : a.Single) (htokens : a.tokens = []) (before : Option Char)
    (x : Text) : Text.Clear anchor? before (marker a.css) x := by
  have hsingle := h htokens
  cases hcss : a.css with
  | none => exact clear_anchor (by decide) before x
  | some s =>
    rw [marker, Text.clear_append, Text.clear_append]
    exact ⟨⟨clear_anchor_toMatch _ _, clear_body (hsingle s hcss) _ _⟩, clear_anchor (by decide) _ _⟩

/-- No anchor reaches across the quote behind a text. -/
theorem clear_of_not_infix {t : Text} (h : ¬ anchorText <:+: t) (before : Option Char) (x : Text) :
    Text.Clear anchor? before t ('\'' :: x) := by
  induction t generalizing before with
  | nil => trivial
  | cons c t ih =>
    have hafter : Text.after? anchorText (c :: t ++ '\'' :: x) = none := by
      rw [Text.after?_guard (by decide), Option.map_eq_none_iff]
      refine Option.eq_none_iff_forall_ne_some.2 fun rest hrest => h ?_
      exact ⟨[], rest, (Text.after?_eq_some_iff.1 hrest).symm⟩
    exact ⟨anchor?_of_after? hafter before,
      ih (fun hmem => h (hmem.trans (List.suffix_cons c t).isInfix)) (some c)⟩

theorem clear_header (g : Group) (x : Text) : Text.Clear anchor? none (g.header ++ ['\n']) x := by
  have hopening (y : Text) : Text.Clear anchor? none testOpening y := by
    have hafter : Text.after? anchorText ('e' :: "st('".toList ++ y) = none := rfl
    exact ⟨anchor?_of_ne (by decide) _ _, anchor?_of_after? hafter _, clear_anchor (by decide) _ _⟩
  rw [Group.header, Text.clear_append, Text.clear_append, Text.clear_append]
  exact ⟨⟨⟨hopening _, clear_of_not_infix g.name_anchor _ _⟩, clear_anchor (by decide) _ _⟩, clear_anchor (by decide) _ _⟩

/-! ### From anchor to anchor -/

namespace Assertion
variable (a : Assertion)

/-- What is read of a rendered assertion. -/
def consumed : Text := if a.tokens = [] then anchorText else a.call

/-- What is left of its text behind that. -/
def leftover : Text :=
  if a.tokens = [] then "await run([]".toList ++ marker a.css ++ behindMarker a.css
  else behindMarker a.css

theorem text_eq : a.text = indent ++ (a.consumed ++ a.leftover) := by
  by_cases h : a.tokens = []
  · have hopening : opening = anchorText ++ "await run([".toList := rfl
    simp [text, consumed, leftover, h, array, hopening]
  · simp [text, consumed, leftover, h, call]

end Assertion

theorem clear_behindMarker (css : Option Css) (before : Option Char) (x : Text) :
    Text.Clear anchor? before (behindMarker css) x := by
  refine clear_anchor ?_ before x
  cases css with
  | none => decide
  | some s => exact (by decide : 'e' ∉ [')', '\n'])

theorem clear_leftover {a : Assertion} (h : a.Single) (before : Option Char) (x : Text) :
    Text.Clear anchor? before a.leftover x := by
  by_cases htokens : a.tokens = []
  · rw [Assertion.leftover, if_pos htokens, Text.clear_append, Text.clear_append]
    exact ⟨⟨clear_anchor (by decide) _ _, clear_marker h htokens _ _⟩, clear_behindMarker _ _ _⟩
  · rw [Assertion.leftover, if_neg htokens]
    exact clear_behindMarker _ _ _

/-- The round that reads an assertion begins behind what was read before. -/
theorem round?_assertion {done left : Text} (hleft : ∀ x, Text.Clear anchor? (Text.endOf none done) left x)
    (a : Assertion) (rest : Text) :
    round? {} (done ++ (left ++ (a.text ++ rest))) done.length =
      some ⟨done.length + (left.length + 2), if a.tokens = [] then none else some a.reading⟩ := by
  have htext : left ++ (a.text ++ rest) =
      (left ++ indent) ++ (a.call ++ (behindMarker a.css ++ rest)) := by
    simp [Assertion.text, Assertion.call]
  have hclear : Text.Clear anchor? (Text.endOf none done) (left ++ indent)
      (a.call ++ (behindMarker a.css ++ rest)) :=
    Text.clear_append.2 ⟨hleft _, clear_anchor (by decide) _ _⟩
  have hanchor : firstPlace? anchor? (Text.endOf (Text.endOf none done) (left ++ indent))
      (a.call ++ (behindMarker a.css ++ rest)) = some (0, 7) := by
    have hbefore : Text.endOf (Text.endOf none done) (left ++ indent) = some ' ' := by
      rw [Text.endOf_append]
      rfl
    rw [hbefore]
    exact firstPlace?_of_some rfl
  have hfirst : firstPlace? anchor? (charBefore (done ++ (left ++ (a.text ++ rest))) done.length)
      ((done ++ (left ++ (a.text ++ rest))).drop done.length) = some (left.length + 2, 7) := by
    rw [charBefore_append, List.drop_left, htext, firstPlace?_clear hclear, hanchor]
    simp [indent]
  have hdrop : (done ++ (left ++ (a.text ++ rest))).drop (done.length + (left.length + 2)) =
      a.call ++ (behindMarker a.css ++ rest) := by
    have hlength : left.length + 2 = (left ++ indent).length := by simp [indent]
    rw [← List.drop_drop, List.drop_left, htext, hlength, List.drop_left]
  rw [round?, hfirst, Option.map_some, hdrop, reading?_call]

/-- The next round begins behind what was read of the assertion. -/
theorem next_round (a : Assertion) (anchor : Nat) :
    Round.next ⟨anchor, if a.tokens = [] then none else some a.reading⟩ =
      anchor + a.consumed.length := by
  by_cases h : a.tokens = []
  · simp [Round.next, Assertion.consumed, h]
  · have hlength : anchorText.length ≤ a.call.length := by
      have h1 : anchorText.length = 7 := rfl
      have h2 : opening.length = 18 := rfl
      simp only [Assertion.call, List.length_append, h1, h2]
      omega
    simp only [Round.next, Assertion.consumed, h, if_false, Assertion.reading]
    omega

/-- The cases of the rounds of a block from the given place on. -/
def casesBehind (b : TestBlock) (start ordinal : Nat) : List TestCase :=
  (((rounds {} b.text start).filterMap fun r => r.reading.map (r.anchor, ·)).zipIdx ordinal).map
    fun ((anchor, reading), ordinal) => b.caseAt ordinal anchor reading

/-- The case of an assertion that stands in a block. -/
theorem caseAt_anchor {b : TestBlock} (a : Assertion) {done left rest : Text}
    (htext : b.text = (done ++ (left ++ indent) ++ a.consumed) ++ rest) (ordinal : Nat) :
    b.caseAt ordinal (done.length + (left.length + 2)) a.reading =
      ⟨b.name, ordinal, b.startLine + Text.newlines (done ++ left), a.tokens.map (·.text),
        a.expectation⟩ := by
  have htake : b.text.take (done.length + (left.length + 2)) = done ++ left ++ indent := by
    have hlength : done.length + (left.length + 2) = (done ++ left ++ indent).length := by
      simp only [List.length_append, indent, List.length_cons, List.length_nil]
      omega
    have hsplit : b.text = (done ++ left ++ indent) ++ (a.consumed ++ rest) := by
      rw [htext]
      simp
    rw [hsplit, hlength, List.take_left]
  have hline : Text.newlines (done ++ left ++ indent) = Text.newlines (done ++ left) := by
    rw [Text.newlines_append]
    rfl
  rw [TestBlock.caseAt, htake, hline]
  rfl

theorem casesBehind_eq {b : TestBlock} {as : List Assertion} {done left : Text}
    (htext : b.text = done ++ (left ++ (as.flatMap Assertion.text ++ (footer ++ ['\n']))))
    (hleft : ∀ x, Text.Clear anchor? (Text.endOf none done) left x) (has : ∀ a ∈ as, a.Single)
    (ordinal : Nat) : casesBehind b done.length ordinal =
      casesOf b.name (b.startLine + Text.newlines (done ++ left)) ordinal as := by
  induction as generalizing done left ordinal with
  | nil =>
    have hnone : round? {} b.text done.length = none := by
      have hclear : Text.Clear anchor? (Text.endOf none done) (left ++ (footer ++ ['\n'])) [] :=
        Text.clear_append.2 ⟨hleft _, clear_anchor (by decide) _ _⟩
      rw [round?, htext, charBefore_append, List.drop_left, List.flatMap_nil, List.nil_append,
        firstPlace?_eq_none_iff.2 hclear]
      rfl
    rw [casesBehind, rounds_of_none hnone]
    rfl
  | cons a more ih =>
    have hsingle := has a List.mem_cons_self
    have hround := round?_assertion hleft a (more.flatMap Assertion.text ++ (footer ++ ['\n']))
    rw [← List.append_assoc a.text, ← List.flatMap_cons, ← htext] at hround
    have htext' : b.text = (done ++ (left ++ indent) ++ a.consumed) ++
        (a.leftover ++ (more.flatMap Assertion.text ++ (footer ++ ['\n']))) := by
      rw [htext, List.flatMap_cons, a.text_eq]
      simp
    have hnext : done.length + (left.length + 2) + a.consumed.length =
        (done ++ (left ++ indent) ++ a.consumed).length := by
      simp only [List.length_append, indent, List.length_cons, List.length_nil]
    have hline : Text.newlines (done ++ (left ++ indent) ++ a.consumed ++ a.leftover) =
        Text.newlines (done ++ left) + Text.newlines a.text := by
      rw [a.text_eq]
      simp only [Text.newlines_append]
      omega
    have hmore := ih htext' (clear_leftover hsingle _) fun d hd => has d (List.mem_cons_of_mem a hd)
    rw [casesBehind, rounds_of_some hround, next_round, hnext]
    rw [hline, ← Nat.add_assoc] at hmore
    by_cases htokens : a.tokens = []
    · rw [casesOf, if_pos htokens, ← hmore ordinal]
      simp only [htokens, if_true, List.filterMap_cons, Option.map_none, casesBehind]
    · rw [casesOf, if_neg htokens, ← hmore (ordinal + 1)]
      simp only [htokens, if_false, List.filterMap_cons, Option.map_some, casesBehind,
        List.zipIdx_cons, List.map_cons]
      rw [List.cons.injEq]
      exact ⟨caseAt_anchor a htext' ordinal, rfl⟩

/-- The cases of a group are its assertions that have tokens. -/
theorem cases_block (g : Group) (h : ∀ a ∈ g.assertions, a.Single) (number : Nat) :
    TestBlock.cases {} ⟨g.name, number, g.text⟩ = casesOf g.name (number + 1) 0 g.assertions := by
  have htext : g.text = [] ++ ((g.header ++ ['\n']) ++
      (g.assertions.flatMap Assertion.text ++ (footer ++ ['\n']))) := by
    simp [Group.text, Group.body]
  have hline : Text.newlines ([] ++ (g.header ++ ['\n'])) = 1 := by
    rw [List.nil_append, Text.newlines_append, Text.newlines_of_not_mem (header_line g)]
    rfl
  have hcases := casesBehind_eq (b := ⟨g.name, number, g.text⟩) htext (clear_header g) h 0
  rw [hline] at hcases
  exact hcases

/-- **Extraction undoes rendering**: the cases of a rendered fixture are the assertions that
have tokens, with the names of their tests, in order, numbered test by test. -/
theorem cases_render (groups : List Group) (h : ∀ g ∈ groups, ∀ a ∈ g.assertions, a.Single) :
    cases {} (render groups) = casesFrom 1 groups := by
  have run : ∀ (gs : List Group) (number : Nat), (∀ g ∈ gs, ∀ a ∈ g.assertions, a.Single) →
      (blocksOf number gs).flatMap (TestBlock.cases {}) = casesFrom number gs := by
    intro gs
    induction gs with
    | nil => intro number _; rfl
    | cons g more ih =>
      intro number hs
      rw [blocksOf, List.flatMap_cons, cases_block g (hs g List.mem_cons_self),
        ih _ fun g' hg' => hs g' (List.mem_cons_of_mem g hg')]
      rfl
  rw [cases, blocks_render]
  exact run groups 1 h

/-- A group with an assertion that is passed over and one that is not. -/
theorem cases_render_pair :
    cases {} (render [⟨"g".toList,
      [⟨[], none⟩, ⟨[⟨"x[".toList, by simp⟩], some ⟨"a $ \x60expect(\x60".toList, by decide,
        by decide +kernel, by decide, by decide +kernel⟩⟩], by simp, by decide⟩]) =
      [⟨"g".toList, 0, 3, ["x[".toList], .css "a $ \x60expect(\x60".toList⟩] :=
  cases_render _ (by
    intro g hg a ha htokens s hs
    obtain rfl := List.mem_singleton.1 hg
    rcases List.mem_cons.1 ha with rfl | ha
    · exact absurd hs (by simp)
    · obtain rfl := List.mem_singleton.1 ha
      exact absurd htokens (by simp))

/-- A group whose only assertion has no tokens, and a snapshot that holds an anchor. -/
def emptyArray : Group := ⟨"g".toList,
  [⟨[], some ⟨"expect(run(['x'])).toEqual('')".toList, by decide, by decide +kernel, by decide,
    by decide +kernel⟩⟩], by simp, by decide⟩

/-- A snapshot behind an empty array is searched like the rest of the block. -/
theorem cases_emptyArray : casesFrom 1 [emptyArray] = [] ∧
    cases {} (render [emptyArray]) = [⟨"g".toList, 0, 3, ["x".toList], .empty⟩] := by
  constructor <;> decide +kernel

end StyleSnapshot.Fixture.Rendering
