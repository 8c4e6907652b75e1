import StyleSnapshot.Proofs.Fixture.Literals
import StyleSnapshot.Proofs.Fixture.Pairing
import StyleSnapshot.Proofs.Text.Parts

/-! The tokens of a themed call.

Every bracket of the arguments is tried as the beginning of the last array. One outside of
literals closes before the array begins. One that a literal holds is scanned out of step
with the literals, and never again stands outside of one where the array ends
(`astray_behind_opening`); so `lastArray?_text` holds whatever literals there are, and
`first_case_of_themed_call` follows. -/
namespace StyleSnapshot.Fixture

/-- Arguments that end in an array of tokens. -/
structure ThemedArguments where
  /-- What stands before the array. -/
  lead : List Part
  round : Balances .round (outside lead)
  square : Balances .square (outside lead)
  /-- The inside of the array. -/
  array : List Part
  separated : ∀ c ∈ outside array, c = ',' ∨ isBlank c = true
  quoted : ∀ l, Part.literal l ∈ array → l.quote = '\'' ∨ l.quote = '"'
  /-- Whether a comma follows the array. -/
  comma : Bool
  beforeComma : Text
  behindComma : Text
  blankBefore : ∀ c ∈ beforeComma, isBlank c = true
  blankBehind : ∀ c ∈ behindComma, isBlank c = true

namespace ThemedArguments
variable (a : ThemedArguments)

/-- What follows the array. -/
def tail : Text := a.beforeComma ++ (if a.comma then [','] else []) ++ a.behindComma

def text : Text := written a.lead ++ '[' :: (written a.array ++ ']' :: a.tail)

def tokens : List Text := a.array.filterMap (·.inside?)

theorem of_mem_tail {c : Char} (h : c ∈ a.tail) : c = ',' ∨ isBlank c = true := by
  rw [tail, List.mem_append, List.mem_append] at h
  rcases h with (h | h) | h
  · exact .inr (a.blankBefore c h)
  · split at h
    · exact .inl (List.mem_singleton.1 h)
    · exact absurd h List.not_mem_nil
  · exact .inr (a.blankBehind c h)

theorem not_mark_of_separator {c : Char} (h : c = ',' ∨ isBlank c = true) :
    c ∉ Marks.chars.quotes ∧ c ≠ '\\' ∧ c ∉ ['(', ')', '[', ']'] := by
  have hmarks : ∀ d ∈ '\\' :: (Marks.chars.quotes ++ ['(', ')', '[', ']']),
      d ≠ ',' ∧ isBlank d = false := by decide
  have hc : c ∉ '\\' :: (Marks.chars.quotes ++ ['(', ')', '[', ']']) := fun hmem => by
    have hd := hmarks c hmem
    rcases h with rfl | h
    · exact hd.1 rfl
    · exact absurd (hd.2.symm.trans h) (by decide)
  rw [List.mem_cons, List.mem_append, not_or, not_or] at hc
  exact ⟨hc.2.1, hc.1, hc.2.2⟩

/-- The bracket that opens the array. -/
def opening : Part := .bare ⟨['['], by decide, by decide⟩

/-- The bracket that closes the array and what follows. -/
def ending : Part :=
  .bare
    { text := ']' :: a.tail
      unquoted := by
        intro c hc
        rcases List.mem_cons.1 hc with rfl | hc
        · decide
        · exact (not_mark_of_separator (a.of_mem_tail hc)).1
      plain := by
        intro hc
        rcases List.mem_cons.1 hc with hc | hc
        · exact absurd hc (by decide)
        · exact (not_mark_of_separator (a.of_mem_tail hc)).2.1 rfl }

theorem text_eq_written : a.text = written (a.lead ++ opening :: (a.array ++ [a.ending])) := by
  rw [written_append, written_cons, written_append]
  simp [text, opening, ending, written, Part.text]

/-! ### Where the arguments end -/

theorem closing?_text (post : Text) :
    closing? Marks.chars .round .plain 0 (a.text ++ ')' :: post) = some a.text.length := by
  have harray : Balances .round (outside (opening :: (a.array ++ [a.ending]))) := by
    have hmem : ∀ c ∈ outside (opening :: (a.array ++ [a.ending])),
        c = '[' ∨ c = ']' ∨ c = ',' ∨ isBlank c = true := by
      intro c hc
      rw [outside_cons, outside_append, List.mem_append, List.mem_append] at hc
      rcases hc with hc | hc | hc
      · exact .inl (List.mem_singleton.1 hc)
      · exact .inr (.inr (a.separated c hc))
      · rw [outside_cons, show outside [] = [] from rfl, List.append_nil] at hc
        rcases List.mem_cons.1 hc with hc | hc
        · exact .inr (.inl hc)
        · exact .inr (.inr (a.of_mem_tail hc))
    exact balances_of_not_mem (fun h => absurd (hmem _ h) (by decide))
      fun h => absurd (hmem _ h) (by decide)
  have hwalk : walk Marks.chars .round (.plain, 0) a.text = some (.plain, 0) := by
    rw [text_eq_written, walk_written, outside_append]
    exact walk_balances (by decide) (fun c hc => unquoted_outside _ c (outside_append _ _ ▸ hc))
      (a.round.append harray) 0
  rw [closing?_append_of_walk hwalk]
  rfl

/-! ### The last array -/

/-- An array that ends where none ends that begins earlier. -/
theorem arrayEndingAt?_append {before x : Text} {distance : Nat}
    (h : ∀ u v, before = u ++ '[' :: v →
      closing? Marks.chars .square .plain 0 (v ++ x) ≠ some (v.length + distance)) :
    arrayEndingAt? (before.length + distance) (before ++ x) = arrayEndingAt? distance x := by
  induction before with
  | nil => rw [List.length_nil, Nat.zero_add, List.nil_append]
  | cons c before ih =>
    have hfirst : ¬ (c = '[' ∧
        closing? Marks.chars .square .plain 0 (before ++ x) = some (before.length + distance)) := by
      rintro ⟨rfl, hclose⟩
      exact h [] before rfl hclose
    rw [List.length_cons, Nat.add_right_comm, List.cons_append, arrayEndingAt?, if_neg hfirst]
    exact ih fun u v huv => h (c :: u) v (congrArg (c :: ·) huv)

/-- Behind the array a comma and blanks are dropped. -/
theorem trim_text : Text.trimEnd (Text.dropEndWhile (· = ',') (Text.trimEnd a.text)) =
    written a.lead ++ '[' :: (written a.array ++ [']']) := by
  have hbracket : isBlank ']' = false := by decide
  have hfront (w : Text) : written a.lead ++ '[' :: (written a.array ++ ']' :: w) =
      (written a.lead ++ '[' :: written a.array) ++ ']' :: w := by simp
  rw [text, tail, hfront, hfront]
  generalize written a.lead ++ '[' :: written a.array = front
  cases a.comma with
  | false =>
    have hblank : ∀ c ∈ a.beforeComma ++ [] ++ a.behindComma, isBlank c = true := by
      intro c hc
      rw [List.append_nil, List.mem_append] at hc
      exact hc.elim (a.blankBefore c) (a.blankBehind c)
    rw [if_neg Bool.false_ne_true, Text.trimEnd_run hbracket hblank,
      Text.dropEndWhile_run (by decide) (w := []) nofun, Text.trimEnd_run hbracket (w := []) nofun]
  | true =>
    -- What stands in front of the comma ends in the bracket or in a blank.
    obtain ⟨lead, last, hlast, hne⟩ :
        ∃ lead last, ']' :: a.beforeComma = lead ++ [last] ∧ last ≠ ',' := by
      obtain hnil | ⟨lead, last, hlast⟩ := List.eq_nil_or_concat (']' :: a.beforeComma)
      · exact absurd hnil (List.cons_ne_nil _ _)
      · rw [List.concat_eq_append] at hlast
        refine ⟨lead, last, hlast, fun hcomma => ?_⟩
        have hmem : ',' ∈ ']' :: a.beforeComma := by
          rw [hlast, hcomma]
          exact List.mem_append_right lead (List.mem_singleton_self ',')
        rcases List.mem_cons.1 hmem with hc | hc
        · exact absurd hc (by decide)
        · exact absurd (a.blankBefore _ hc) (by decide)
    have hcomma : front ++ ']' :: (a.beforeComma ++ [','] ++ a.behindComma) =
        (front ++ ']' :: a.beforeComma) ++ ',' :: a.behindComma := by simp
    have hfirst : front ++ ']' :: a.beforeComma ++ [','] = (front ++ lead) ++ last :: [','] := by
      rw [hlast]
      simp
    rw [if_pos rfl, hcomma, Text.trimEnd_run (by decide) a.blankBehind, hfirst,
      Text.dropEndWhile_run (decide_eq_false hne) (by simp), List.append_assoc, ← hlast,
      Text.trimEnd_run hbracket a.blankBefore]

theorem lastArray?_text : lastArray? a.text = some (written a.array) := by
  have hlast : (written a.lead ++ '[' :: (written a.array ++ [']'])).getLast? = some ']' := by
    have hfront : written a.lead ++ '[' :: (written a.array ++ [']']) =
        (written a.lead ++ '[' :: written a.array) ++ [']'] := by simp
    rw [hfront, List.getLast?_concat]
  have hlength : (written a.lead ++ '[' :: (written a.array ++ [']'])).length - 1 =
      (written a.lead).length + ((written a.array).length + 1) := by
    simp only [List.length_append, List.length_cons, List.length_nil]
    omega
  -- No bracket in front of the array is closed where the array is.
  have hearlier : ∀ u v, written a.lead = u ++ '[' :: v →
      closing? Marks.chars .square .plain 0 (v ++ '[' :: (written a.array ++ ']' :: a.tail)) ≠
        some (v.length + ((written a.array).length + 1)) := by
    intro u v huv
    have hastray : Astray Marks.chars (walk Marks.chars .square (.plain, 0)
        (v ++ written (opening :: a.array))) :=
      astray_append_written (astray_behind_opening (by decide) (by decide) a.square huv) _
    have hne := closing?_ne_of_astray hastray ']' a.tail
    simpa [written_cons, opening, Part.text] using hne
  have harray : closing? Marks.chars .square .plain 0 (written a.array ++ ']' :: a.tail) =
      some (written a.array).length := by
    have hbalanced : Balances .square (outside a.array) :=
      balances_of_not_mem
        (fun h => absurd (not_mark_of_separator (a.separated _ h)).2.2 (by decide))
        fun h => absurd (not_mark_of_separator (a.separated _ h)).2.2 (by decide)
    have hwalk : walk Marks.chars .square (.plain, 0) (written a.array) = some (.plain, 0) := by
      rw [walk_written]
      exact walk_balances (by decide) (unquoted_outside _) hbalanced 0
    rw [closing?_append_of_walk hwalk]
    rfl
  rw [lastArray?, trim_text, if_pos hlast, hlength, text, arrayEndingAt?_append hearlier,
    arrayEndingAt?, if_pos ⟨rfl, harray⟩, List.take_left]

theorem themedTokens_text (post : Text) : themedTokens (a.text ++ ')' :: post) = a.tokens := by
  rw [themedTokens, a.closing?_text]
  show ((lastArray? ((a.text ++ ')' :: post).take a.text.length)).map Fixture.tokens).getD [] = _
  rw [List.take_left, a.lastArray?_text, Option.map_some, Option.getD_some, tokens_written a.quoted]
  rfl

end ThemedArguments

/-! ### The case -/

/-- An assertion on what a themed call yields, up to the arguments of the call. -/
def themedOpening : Text := "expect(await compileCss(".toList

theorem nearestCall?_themed (x : Text) :
    nearestCall? 50 (themedOpening ++ x) = some ⟨.themed, 13, 24⟩ := by
  have hclear : Text.Clear call? none "expect(await ".toList (compileText ++ x) :=
    ⟨rfl, rfl, rfl, rfl, rfl, rfl, rfl, rfl, rfl, rfl, rfl, rfl, rfl, trivial⟩
  have hsplit : themedOpening ++ x = "expect(await ".toList ++ (compileText ++ x) := rfl
  have hnear : Text.byteLength (("expect(await ".toList ++ (compileText ++ x)).take 13) ≤ 50 := by
    have htake : ("expect(await ".toList ++ (compileText ++ x)).take 13 = "expect(await ".toList := rfl
    rw [htake]
    decide +kernel
  rw [nearestCall?_eq_some_iff, hsplit]
  exact ⟨11, rfl, rfl, clear_iff_at.1 hclear, hnear⟩

theorem reading?_themed (a : ThemedArguments) (post : Text) :
    reading? {} (themedOpening ++ (a.text ++ ')' :: post)) =
      some ⟨.deferred, a.tokens, ⟨.themed, 13, 24⟩, 24⟩ := by
  have hinside : (themedOpening ++ (a.text ++ ')' :: post)).drop 24 = a.text ++ ')' :: post := rfl
  have hcall : nearestCall? ({} : Windows).proximity (themedOpening ++ (a.text ++ ')' :: post)) =
      some ⟨.themed, 13, 24⟩ := nearestCall?_themed _
  simp only [reading?, hcall, hinside, a.themedTokens_text]

/-- No anchor that begins in front of another one reaches into it. -/
theorem clear_before_anchor {t : Text} (h : ¬ anchorText <:+: t) (before : Option Char) (x : Text) :
    Text.Clear anchor? before t (anchorText ++ x) := by
  have hborder : ∀ k < 7, 0 < k → ¬ anchorText.drop k <+: anchorText := by decide
  induction t generalizing before with
  | nil => trivial
  | cons c t ih =>
    have hafter : Text.after? anchorText (c :: t ++ (anchorText ++ x)) = none := by
      refine Option.eq_none_iff_forall_ne_some.2 fun rest hrest => ?_
      have heq : c :: t ++ (anchorText ++ x) = anchorText ++ rest := Text.after?_eq_some_iff.1 hrest
      rcases List.append_eq_append_iff.1 heq with ⟨w, hw, hx⟩ | ⟨w, hw, -⟩
      · -- The rest of the first one would be the beginning of the second.
        have hdrop : anchorText.drop (c :: t).length = w := by rw [hw, List.drop_left]
        have hlength : 7 = (c :: t).length + w.length := by
          rw [← List.length_append, ← hw]
          rfl
        have hprefix : w <+: anchorText :=
          List.prefix_of_prefix_length_le ⟨rest, hx.symm⟩ (List.prefix_append anchorText x)
            (by rw [show anchorText.length = 7 from rfl]; omega)
        rcases Nat.eq_zero_or_pos w.length with hnil | hpos
        · rw [List.length_eq_zero_iff.1 hnil, List.append_nil] at hw
          exact h (hw ▸ List.infix_refl anchorText)
        · exact hborder _ (by omega) (by simp) (hdrop ▸ hprefix)
      · exact h ⟨[], w, hw.symm⟩
    have htail : ¬ anchorText <:+: t := fun hmem => h (hmem.trans (List.suffix_cons c t).isInfix)
    exact ⟨anchor?_of_after? hafter before, ih htail (some c)⟩

/-- The first anchor of a text is the first one that is written in it. -/
theorem round?_zero (windows : Windows) {pre : Text} (x : Text) (h : ¬ anchorText <:+: pre)
    (hword : atWordStart (Text.endOf none pre) = true) :
    round? windows (pre ++ (anchorText ++ x)) 0 =
      some ⟨pre.length, reading? windows (anchorText ++ x)⟩ := by
  have hanchor : anchor? (Text.endOf none pre) (anchorText ++ x) = some 7 := by
    rw [anchor?, hword, Text.startsWith, Text.after?_self]
    rfl
  have hfirst : firstPlace? anchor? none (pre ++ (anchorText ++ x)) = some (pre.length, 7) := by
    rw [firstPlace?_clear (clear_before_anchor h none x)]
    have hhead : firstPlace? anchor? (Text.endOf none pre) (anchorText ++ x) = some (0, 7) :=
      firstPlace?_of_some hanchor
    rw [hhead]
    rfl
  have hround : round? windows (pre ++ (anchorText ++ x)) 0 =
      (firstPlace? anchor? none (pre ++ (anchorText ++ x))).map fun found =>
        ⟨0 + found.1, reading? windows ((pre ++ (anchorText ++ x)).drop (0 + found.1))⟩ := rfl
  rw [hround, hfirst, Option.map_some, Nat.zero_add, List.drop_left]

/-- **The tokens of a deferred call are those of its last array.** Whatever literals stand in
front of the array, and whatever brackets stand in them, the first case of a block whose first
assertion is on a themed call has the tokens of the array, in their order. -/
theorem first_case_of_themed_call (a : ThemedArguments) {b : TestBlock} {pre post : Text}
    (htext : b.text = pre ++ (themedOpening ++ (a.text ++ ')' :: post)))
    (hword : atWordStart (Text.endOf none pre) = true) (hfirst : ¬ anchorText <:+: pre) :
    (b.cases {}).head? =
      some ⟨b.name, 0, b.startLine + Text.newlines pre, a.tokens, .deferred⟩ := by
  have hround := round?_zero {} ("await compileCss(".toList ++ (a.text ++ ')' :: post)) hfirst hword
  have hopening : anchorText ++ ("await compileCss(".toList ++ (a.text ++ ')' :: post)) =
      themedOpening ++ (a.text ++ ')' :: post) := rfl
  rw [hopening, reading?_themed, ← htext] at hround
  obtain ⟨more, hmore⟩ : ∃ more, assertions {} b.text =
      (pre.length, ⟨.deferred, a.tokens, ⟨.themed, 13, 24⟩, 24⟩) :: more := by
    rw [assertions, rounds_of_some hround]
    exact ⟨_, rfl⟩
  have htake : b.text.take pre.length = pre := by rw [htext, List.take_left]
  rw [TestBlock.cases, hmore, List.zipIdx_cons, List.map_cons, List.head?_cons]
  simp only [TestBlock.caseAt, htake]

/-- Arguments with brackets in literals of every kind. -/
def bracketedArguments : ThemedArguments where
  lead := [
    .literal ⟨'\'', "a[b(".toList, by decide +kernel, by decide +kernel, by decide +kernel⟩,
    .bare ⟨", ".toList, by decide +kernel, by decide +kernel⟩,
    .literal ⟨'"', "it's ]".toList, by decide +kernel, by decide +kernel, by decide +kernel⟩,
    .bare ⟨", ".toList, by decide +kernel, by decide +kernel⟩,
    .literal ⟨'\x60', "x\"[".toList, by decide +kernel, by decide +kernel, by decide +kernel⟩,
    .bare ⟨", f([g(1)]), ".toList, by decide +kernel, by decide +kernel⟩]
  round := by decide +kernel
  square := by decide +kernel
  array := [
    .literal ⟨'\'', "p[1]".toList, by decide +kernel, by decide +kernel, by decide +kernel⟩,
    .bare ⟨", ".toList, by decide +kernel, by decide +kernel⟩,
    .literal ⟨'"', "q's".toList, by decide +kernel, by decide +kernel, by decide +kernel⟩]
  separated := by decide +kernel
  quoted := by
    intro l h
    simp only [List.mem_cons, Part.literal.injEq, reduceCtorEq, List.not_mem_nil, or_false,
      false_or] at h
    rcases h with rfl | rfl
    · exact .inl rfl
    · exact .inr rfl
  comma := true
  beforeComma := [' ']
  behindComma := ['\n']
  blankBefore := by decide +kernel
  blankBehind := by decide +kernel

theorem first_case_of_bracketed_call :
    let b : TestBlock := ⟨"theme".toList, 3,
      "  const t = 'x'\n  expect(await compileCss('a[b(', \"it's ]\", \x60x\"[\x60, f([g(1)]), ".toList ++
        "['p[1]', \"q's\"] ,\n)).toMatchInlineSnapshot()\n".toList⟩
    (b.cases {}).head? =
      some ⟨"theme".toList, 0, 4, ["p[1]".toList, "q's".toList], .deferred⟩ := by
  intro b
  have htext : b.text = "  const t = 'x'\n  ".toList ++
      (themedOpening ++ (bracketedArguments.text ++ ')' :: ").toMatchInlineSnapshot()\n".toList)) := by
    decide +kernel
  exact first_case_of_themed_call bracketedArguments htext (by decide +kernel) (by decide +kernel)

end StyleSnapshot.Fixture
