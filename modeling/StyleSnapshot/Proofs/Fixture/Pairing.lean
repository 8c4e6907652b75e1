import StyleSnapshot.Fixture.Case
import StyleSnapshot.Proofs.Fixture.Places

/-! The call that feeds an assertion.

From its anchor on an assertion takes the nearest call of either kind that the window reaches
(`nearestCall?_eq_some_iff`). An anchor in between does not stop it. So an anchor without a call
of its own takes that of an assertion behind it, whose anchor is then passed over;
`fed_by_own_call_iff` says that a case gets the call of another assertion in this way only. -/
namespace StyleSnapshot.Fixture

/-! ### Calls and anchors -/

/-- The call that stands here, and the number of characters up to its inside. -/
def call? (before : Option Char) (t : Text) : Option (CallKind × Nat) :=
  ((tokenCall? before t).map (CallKind.tokenArray, ·)).or
    ((themedCall? before t).map (CallKind.themed, ·))

theorem call?_nil (before : Option Char) : call? before [] = none := by
  have harray : tokenCall? before [] = none := by
    rw [tokenCall?]
    split <;> rfl
  have hthemed : themedCall? before [] = none := by
    rw [themedCall?, show Text.startsWith compileText [] = false from rfl, Bool.and_false]
    rfl
  rw [call?, harray, hthemed]
  rfl

theorem nearestCall?_eq (window : Nat) (t : Text) : nearestCall? window t =
    (firstPlaceWithin? call? window none t).map fun found =>
      ⟨found.2.1, found.1, found.1 + found.2.2⟩ := by
  have hcall : firstPlaceWithin? call? window none t = _ := firstPlaceWithin?_or _ _ window none t
  rw [hcall, firstPlaceWithin?_map, firstPlaceWithin?_map, nearestCall?, callWithin?, callWithin?]
  cases firstPlaceWithin? tokenCall? window none t <;>
    cases firstPlaceWithin? themedCall? window none t <;>
      simp only [nearer, Option.map_some, Option.map_none]
  split <;> rfl

/-- The call that feeds an assertion is the first one behind its anchor, and within the
window. -/
theorem nearestCall?_eq_some_iff {window : Nat} {t : Text} {call : Call} :
    nearestCall? window t = some call ↔
      ∃ n, call.inside = call.start + n ∧ at? call? t call.start = some (call.kind, n) ∧
        (∀ place < call.start, at? call? t place = none) ∧
        Text.byteLength (t.take call.start) ≤ window := by
  obtain ⟨kind, start, inside⟩ := call
  simp only [nearestCall?_eq, Option.map_eq_some_iff, Prod.exists, Call.mk.injEq]
  constructor
  · rintro ⟨_, _, n, hfound, rfl, rfl, rfl⟩
    obtain ⟨hfirst, hnear⟩ := firstPlaceWithin?_eq_some_iff.1 hfound
    obtain ⟨-, hcall, hnone⟩ := firstPlace?_eq_some_iff_at.1 hfirst
    exact ⟨n, rfl, hcall, hnone, hnear⟩
  · rintro ⟨n, rfl, hcall, hnone, hnear⟩
    have hlt : start < t.length := by
      refine Nat.lt_of_not_le fun hle => ?_
      rw [at?, List.drop_of_length_le hle, call?_nil] at hcall
      exact Option.some_ne_none _ hcall.symm
    have hfirst := firstPlace?_eq_some_iff_at.2 ⟨hlt, hcall, hnone⟩
    exact ⟨start, kind, n, firstPlaceWithin?_eq_some_iff.2 ⟨hfirst, hnear⟩, rfl, rfl, rfl⟩

/-- An anchor begins at the place. -/
def AnchorAt (t : Text) (place : Nat) : Prop := (at? anchor? t place).isSome = true

/-- A call begins at the place. -/
def CallAt (t : Text) (place : Nat) : Prop := (at? call? t place).isSome = true

instance (t : Text) (place : Nat) : Decidable (AnchorAt t place) :=
  inferInstanceAs (Decidable ((at? anchor? t place).isSome = true))

instance (t : Text) (place : Nat) : Decidable (CallAt t place) :=
  inferInstanceAs (Decidable ((at? call? t place).isSome = true))

/-! ### What is read -/

/-- An array is read as far as it closes, has tokens, and a marker behind it tells an
expectation. -/
theorem readArray?_eq_some_iff {windows : Windows} {call : Call} {t : Text} {r : Reading} :
    readArray? windows call t = some r ↔ ∃ n marker expectation stop,
      closing? Marks.chars .square .plain 0 (t.drop call.inside) = some n ∧
      tokens ((t.drop call.inside).take n) ≠ [] ∧
      firstMarker? (markerStretch windows.lookahead ((t.drop call.inside).drop (n + 1))) = some marker ∧
      expectation? ((t.drop call.inside).drop (n + 1)) marker = some (expectation, stop) ∧
      r = ⟨expectation, tokens ((t.drop call.inside).take n), call, call.inside + (n + 1) + stop⟩ := by
  constructor
  · intro h
    simp only [readArray?, Option.bind_eq_bind] at h
    obtain ⟨n, hclose, h⟩ := Option.bind_eq_some_iff.1 h
    split at h
    · exact absurd h.symm (Option.some_ne_none r)
    · next hne =>
      obtain ⟨marker, hmarker, h⟩ := Option.bind_eq_some_iff.1 h
      obtain ⟨⟨expectation, stop⟩, hexpectation, h⟩ := Option.bind_eq_some_iff.1 h
      exact ⟨n, marker, expectation, stop, hclose, hne, hmarker, hexpectation, (Option.some.inj h).symm⟩
  · rintro ⟨n, marker, expectation, stop, hclose, hne, hmarker, hexpectation, rfl⟩
    simp only [readArray?, hclose, Option.bind_eq_bind, Option.bind_some, if_neg hne, hmarker,
      hexpectation]

/-- A themed call is deferred with what tokens it has, and an array is read. -/
theorem cases_of_reading? {windows : Windows} {t : Text} {r : Reading}
    (h : reading? windows t = some r) : nearestCall? windows.proximity t = some r.call ∧
      (r.call.kind = .themed ∧ r.expectation = .deferred ∧
          r.tokens = themedTokens (t.drop r.call.inside) ∨
        r.call.kind = .tokenArray ∧ readArray? windows r.call t = some r) := by
  rw [reading?] at h
  split at h
  · exact absurd h.symm (Option.some_ne_none r)
  · next call hcall =>
    split at h
    · next hkind =>
      obtain rfl := Option.some.inj h
      exact ⟨hcall, .inl ⟨hkind, rfl, rfl⟩⟩
    · next hkind =>
      obtain ⟨_, _, _, _, -, -, -, -, rfl⟩ := readArray?_eq_some_iff.1 h
      exact ⟨hcall, .inr ⟨hkind, h⟩⟩

/-- The tokens that are read behind a call, given the text of its array or its arguments. -/
def tokensBehind? : CallKind → Text → Option (List Text)
  | .tokenArray, t => (closing? Marks.chars .square .plain 0 t).map fun n => tokens (t.take n)
  | .themed, t => some (themedTokens t)

theorem tokens_of_reading? {windows : Windows} {t : Text} {r : Reading}
    (h : reading? windows t = some r) :
    tokensBehind? r.call.kind (t.drop r.call.inside) = some r.tokens := by
  obtain ⟨-, ⟨hkind, -, htokens⟩ | ⟨hkind, hread⟩⟩ := cases_of_reading? h
  · rw [hkind, htokens, tokensBehind?]
  · obtain ⟨n, _, _, _, hclose, -, -, -, hr⟩ := readArray?_eq_some_iff.1 hread
    rw [hkind, tokensBehind?, hclose, Option.map_some, hr]

/-! ### From anchor to anchor -/

theorem anchor_of_round? {windows : Windows} {t : Text} {start : Nat} {r : Round}
    (h : round? windows t start = some r) :
    AnchorAt t r.anchor ∧ r.reading = reading? windows (t.drop r.anchor) := by
  obtain ⟨⟨n, length⟩, hfound, rfl⟩ := Option.map_eq_some_iff.1 h
  obtain ⟨skipped, c, rest, hdrop, rfl, hanchor, -⟩ := firstPlace?_eq_some_iff.1 hfound
  have hstart : (t.take start).length = start := by
    refine List.length_take_of_le (Nat.le_of_lt (Nat.lt_of_not_le fun hle => ?_))
    rw [List.drop_of_length_le hle] at hdrop
    simp at hdrop
  have hsplit : t = t.take start ++ skipped ++ c :: rest := by
    rw [List.append_assoc, ← hdrop, List.take_append_drop]
  have hbefore : charBefore t start = Text.endOf none (t.take start) := by
    have := charBefore_append (t.take start) (t.drop start)
    rwa [List.take_append_drop, hstart] at this
  rw [hbefore, ← Text.endOf_append] at hanchor
  refine ⟨?_, rfl⟩
  have hat : at? anchor? t (start + skipped.length) = some length := by
    have := at?_append anchor? (t.take start ++ skipped) (c :: rest)
    rwa [← hsplit, List.length_append, hstart, hanchor] at this
  rw [AnchorAt, hat]
  rfl

theorem anchor_of_mem_rounds {windows : Windows} {t : Text} {start : Nat} {r : Round}
    (h : r ∈ rounds windows t start) :
    AnchorAt t r.anchor ∧ r.reading = reading? windows (t.drop r.anchor) := by
  fun_induction rounds windows t start with
  | case1 start hnone => exact absurd h List.not_mem_nil
  | case2 start first hfirst ih =>
    rcases List.mem_cons.1 h with rfl | h
    · exact anchor_of_round? hfirst
    · exact ih h

theorem anchor_of_mem_assertions {windows : Windows} {t : Text} {anchor : Nat} {r : Reading}
    (h : (anchor, r) ∈ assertions windows t) :
    AnchorAt t anchor ∧ reading? windows (t.drop anchor) = some r := by
  obtain ⟨round, hround, heq⟩ := List.mem_filterMap.1 h
  obtain ⟨reading, hreading, heq⟩ := Option.map_eq_some_iff.1 heq
  obtain ⟨rfl, rfl⟩ := Prod.mk.inj heq
  obtain ⟨hanchor, hread⟩ := anchor_of_mem_rounds hround
  exact ⟨hanchor, hread.symm.trans hreading⟩

/-- The case with some number is that of the assertion with this number. -/
theorem exists_assertion {windows : Windows} {b : TestBlock} {c : TestCase} (h : c ∈ b.cases windows) :
    ∃ anchor r, (assertions windows b.text)[c.ordinal]? = some (anchor, r) ∧
      c = b.caseAt c.ordinal anchor r := by
  obtain ⟨⟨⟨anchor, r⟩, ordinal⟩, hmem, rfl⟩ := List.mem_map.1 h
  exact ⟨anchor, r, List.mem_zipIdx_iff_getElem?.1 hmem, rfl⟩

/-! ### Calls of its own and of others -/

/-- How the assertion at an anchor was read: from the first call behind it. -/
structure Fed (windows : Windows) (t : Text) (anchor : Nat) (r : Reading) : Prop where
  anchored : AnchorAt t anchor
  behind : 0 < r.call.start
  call : CallAt t (anchor + r.call.start)
  tokens : tokensBehind? r.call.kind (t.drop (anchor + r.call.inside)) = some r.tokens
  first : ∀ place, anchor < place → place < anchor + r.call.start → ¬ CallAt t place
  near : Text.byteLength ((t.drop anchor).take r.call.start) ≤ windows.proximity

/-- A call begins behind the anchor before another anchor does. -/
def OwnCall (t : Text) (anchor : Nat) : Prop :=
  ∃ call, anchor < call ∧ CallAt t call ∧ ∀ place, anchor < place → place < call → ¬ AnchorAt t place

theorem AnchorAt.exists_drop {t : Text} {place : Nat} (h : AnchorAt t place) :
    ∃ rest, t.drop place = anchorText ++ rest := by
  rw [AnchorAt, at?, anchor?] at h
  split at h
  · next hanchor =>
    rw [Bool.and_eq_true] at hanchor
    obtain ⟨rest, hrest⟩ := Option.isSome_iff_exists.1 hanchor.2
    exact ⟨rest, Text.after?_eq_some_iff.1 hrest⟩
  · exact absurd h Bool.false_ne_true

theorem fed_of_mem_assertions {windows : Windows} {t : Text} {anchor : Nat} {r : Reading}
    (h : (anchor, r) ∈ assertions windows t) : Fed windows t anchor r := by
  obtain ⟨hanchor, hread⟩ := anchor_of_mem_assertions h
  have htokens := tokens_of_reading? hread
  obtain ⟨n, -, hcall, hnone, hnear⟩ := nearestCall?_eq_some_iff.1 (cases_of_reading? hread).1
  obtain ⟨rest, hdrop⟩ := hanchor.exists_drop
  -- The anchor itself is no call.
  obtain ⟨k, hk⟩ : ∃ k, r.call.start = k + 1 := by
    refine Nat.exists_eq_succ_of_ne_zero fun hzero => ?_
    rw [hzero, hdrop] at hcall
    exact Option.some_ne_none _ (hcall.symm.trans rfl)
  refine ⟨hanchor, by omega, ?_, by rwa [List.drop_drop] at htokens, fun place hlow hhigh hplace => ?_, hnear⟩
  · rw [hk, at?_drop] at hcall
    rw [CallAt, hk, hcall]
    rfl
  · obtain ⟨m, rfl⟩ : ∃ m, place = anchor + (m + 1) := ⟨place - anchor - 1, by omega⟩
    rw [CallAt, ← at?_drop, hnone (m + 1) (by omega)] at hplace
    exact Bool.false_ne_true hplace

/-- **A case gets the call of its own assertion wherever there is one**: between the anchor whose
line is reported and the call whose tokens are taken no other anchor begins just when a call
begins behind the anchor before another anchor does. -/
theorem fed_by_own_call_iff {windows : Windows} {b : TestBlock} {c : TestCase}
    (h : c ∈ b.cases windows) : ∃ anchor r, (assertions windows b.text)[c.ordinal]? = some (anchor, r) ∧
      c = b.caseAt c.ordinal anchor r ∧ Fed windows b.text anchor r ∧
      ((∀ place, anchor < place → place < anchor + r.call.start → ¬ AnchorAt b.text place) ↔
        OwnCall b.text anchor) := by
  obtain ⟨anchor, r, hassertion, hcase⟩ := exists_assertion h
  have hfed := fed_of_mem_assertions (List.mem_of_getElem? hassertion)
  refine ⟨anchor, r, hassertion, hcase, hfed, fun hnone => ?_, ?_⟩
  · exact ⟨anchor + r.call.start, Nat.lt_add_of_pos_right hfed.behind, hfed.call, hnone⟩
  · rintro ⟨call, hbehind, hcall, hnone⟩ place hlow hhigh
    have hfirst : anchor + r.call.start ≤ call :=
      Nat.le_of_not_lt fun hlt => hfed.first call hbehind hlt hcall
    exact hnone place hlow (Nat.lt_of_lt_of_le hhigh hfirst)

/-- The second assertion of a block, each of which has a call of its own. -/
theorem fed_by_own_call_second :
    let b : TestBlock := ⟨"g".toList, 1,
      "expect(await run(['a'])).toEqual('')\nexpect(compileCss(x, ['b'])).toBe(y)".toList⟩
    let c : TestCase := ⟨"g".toList, 1, 2, ["b".toList], .deferred⟩
    c ∈ b.cases {} ∧ ∃ anchor r, (assertions {} b.text)[c.ordinal]? = some (anchor, r) ∧
      c = b.caseAt c.ordinal anchor r ∧ Fed {} b.text anchor r ∧
      ((∀ place, anchor < place → place < anchor + r.call.start → ¬ AnchorAt b.text place) ↔
        OwnCall b.text anchor) := by
  intro b c
  have h : c ∈ b.cases {} := by decide +kernel
  exact ⟨h, fed_by_own_call_iff h⟩

/-- An assertion without a call takes that of the next line, whose anchor is passed over. -/
theorem fed_by_next_line :
    let b : TestBlock := ⟨"g".toList, 1,
      "expect(x).toBe(1)\nexpect(await run(['a'])).toEqual('')".toList⟩
    b.cases {} = [⟨"g".toList, 0, 1, ["a".toList], .empty⟩] ∧
      assertions {} b.text = [(0, ⟨.empty, ["a".toList], ⟨.tokenArray, 31, 36⟩, 54⟩)] ∧
      AnchorAt b.text 0 ∧ AnchorAt b.text 18 ∧ CallAt b.text 31 := by
  decide +kernel

end StyleSnapshot.Fixture
