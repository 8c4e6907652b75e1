import StyleSnapshot.Proofs.Delimiter
import StyleSnapshot.Proofs.Fixture.Pairing
import StyleSnapshot.Proofs.Text.Parts

/-! The marker that decides what an assertion expects.

Behind the array of its tokens the first marker decides, as long as it lies within the window
and in front of the next anchor (`decided_by_first_marker`). What stands between the array and
the marker is not looked at: a method call on the output or a negation changes nothing. -/
namespace StyleSnapshot.Fixture

/-! ### Markers as they are written -/

/-- An inline snapshot up to the beginning of its body. -/
inductive SnapshotMarker : Text → Prop
  | mk {w : Text} : (∀ c ∈ w, isBlank c = true) → SnapshotMarker (snapshotText ++ w ++ ['\x60'])

/-- A comparison with the empty text. -/
inductive EmptyMarker : Text → Prop
  | mk {comparison w literal w' : Text} : comparison ∈ comparisons → (∀ c ∈ w, isBlank c = true) →
      literal ∈ emptyLiterals → (∀ c ∈ w', isBlank c = true) →
      EmptyMarker (comparison ++ w ++ literal ++ w' ++ [')'])

def IsMarker (t : Text) : Prop := SnapshotMarker t ∨ EmptyMarker t

theorem opened?_eq_some_iff {lead : Text} {opening : Char} (hopening : isBlank opening = false)
    {t : Text} {n : Nat} : opened? lead opening t = some n ↔
      ∃ w rest, (∀ c ∈ w, isBlank c = true) ∧ t = lead ++ (w ++ opening :: rest) ∧
        n = lead.length + w.length + 1 := by
  rw [opened?]
  constructor
  · intro h
    split at h
    · exact absurd h.symm (Option.some_ne_none n)
    · next inside hinside =>
      simp only at h
      split at h
      · next hopen =>
        have hdrop : inside.drop (inside.takeWhile isBlank).length = inside.dropWhile isBlank := by
          have := congrArg (List.drop (inside.takeWhile isBlank).length)
            (List.takeWhile_append_dropWhile (p := isBlank) (l := inside))
          rwa [List.drop_left, eq_comm] at this
        rw [hdrop, List.head?_eq_some_iff] at hopen
        obtain ⟨rest, hrest⟩ := hopen
        refine ⟨inside.takeWhile isBlank, rest, fun c hc => List.mem_takeWhile_imp hc, ?_,
          (Option.some.inj h).symm⟩
        rw [← hrest, List.takeWhile_append_dropWhile]
        exact Text.after?_eq_some_iff.1 hinside
      · exact absurd h.symm (Option.some_ne_none n)
  · rintro ⟨w, rest, hw, rfl, rfl⟩
    simp [Text.after?_self, Text.takeWhile_run hopening hw rest]

theorem snapshotMarker?_eq_some_iff {t : Text} {n : Nat} : snapshotMarker? t = some n ↔
    ∃ m rest, SnapshotMarker m ∧ t = m ++ rest ∧ m.length = n := by
  rw [snapshotMarker?, opened?_eq_some_iff (by decide)]
  constructor
  · rintro ⟨w, rest, hw, rfl, rfl⟩
    exact ⟨_, rest, .mk hw, by simp, by simp [Nat.add_assoc]⟩
  · rintro ⟨_, rest, @⟨w, hw⟩, rfl, rfl⟩
    exact ⟨w, rest, hw, by simp, by simp [Nat.add_assoc]⟩

theorem findSome?_comparisons {comparison : Text} (h : comparison ∈ comparisons) (x : Text) :
    comparisons.findSome? (Text.after? · (comparison ++ x)) = some x := by
  simp only [comparisons, List.mem_cons, List.not_mem_nil, or_false] at h
  rcases h with rfl | rfl | rfl <;> rfl

theorem findSome?_emptyLiterals {literal : Text} (h : literal ∈ emptyLiterals) (x : Text) :
    emptyLiterals.findSome? (Text.after? · (Text.trimStart (literal ++ x))) = some x := by
  simp only [emptyLiterals, List.mem_cons, List.not_mem_nil, or_false] at h
  rcases h with rfl | rfl | rfl <;>
    rw [List.cons_append, Text.trimStart_cons_of_not_blank (by decide)] <;> rfl

theorem afterEmptyMarker?_eq_some_iff {t rest : Text} : afterEmptyMarker? t = some rest ↔
    ∃ m, EmptyMarker m ∧ t = m ++ rest := by
  simp only [afterEmptyMarker?, Option.bind_eq_bind, Option.bind_eq_some_iff]
  have blanks (t : Text) : t.takeWhile isBlank ++ Text.trimStart t = t := List.takeWhile_append_dropWhile
  constructor
  · rintro ⟨arguments, harguments, following, hfollowing, hclose⟩
    obtain ⟨comparison, hcomparison, hafter⟩ := List.exists_of_findSome?_eq_some harguments
    obtain ⟨literal, hliteral, hempty⟩ := List.exists_of_findSome?_eq_some hfollowing
    have hblank (t : Text) : ∀ c ∈ t.takeWhile isBlank, isBlank c = true := fun c hc =>
      List.mem_takeWhile_imp hc
    refine ⟨_, .mk hcomparison (hblank arguments) hliteral (hblank following), ?_⟩
    calc t = comparison ++ arguments := Text.after?_eq_some_iff.1 hafter
      _ = comparison ++ (arguments.takeWhile isBlank ++ Text.trimStart arguments) := by rw [blanks]
      _ = comparison ++ (arguments.takeWhile isBlank ++ (literal ++ following)) := by
        rw [← Text.after?_eq_some_iff.1 hempty]
      _ = comparison ++ (arguments.takeWhile isBlank ++
          (literal ++ (following.takeWhile isBlank ++ Text.trimStart following))) := by
        rw [blanks following]
      _ = _ := by
        rw [Text.after?_eq_some_iff.1 hclose]
        simp
  · rintro ⟨_, @⟨comparison, w, literal, w', hcomparison, hw, hliteral, hw'⟩, rfl⟩
    refine ⟨w ++ (literal ++ (w' ++ ')' :: rest)), ?_, w' ++ ')' :: rest, ?_, ?_⟩
    · rw [← findSome?_comparisons hcomparison]
      simp
    · rw [Text.trimStart_append hw, findSome?_emptyLiterals hliteral]
    · rw [Text.trimStart_append hw', Text.trimStart_cons_of_not_blank (by decide)]
      rfl

theorem emptyMarker?_eq_some_iff {t : Text} {n : Nat} : emptyMarker? t = some n ↔
    ∃ m rest, EmptyMarker m ∧ t = m ++ rest ∧ m.length = n := by
  simp only [emptyMarker?, Option.map_eq_some_iff, afterEmptyMarker?_eq_some_iff]
  constructor
  · rintro ⟨rest, ⟨m, hm, rfl⟩, rfl⟩
    exact ⟨m, rest, hm, rfl, by simp⟩
  · rintro ⟨m, rest, hm, rfl, rfl⟩
    exact ⟨rest, ⟨m, hm, rfl⟩, by simp⟩

/-- A marker holds no other dot than the one it begins with. -/
theorem IsMarker.exists_tail {m : Text} (h : IsMarker m) : ∃ tail, m = '.' :: tail ∧ '.' ∉ tail := by
  have hblank {w : Text} (hw : ∀ c ∈ w, isBlank c = true) : '.' ∉ w := fun hmem =>
    absurd (hw '.' hmem) (by decide)
  rcases h with @⟨w, hw⟩ | @⟨comparison, w, literal, w', hcomparison, hw, hliteral, hw'⟩
  · refine ⟨"toMatchInlineSnapshot(".toList ++ w ++ ['\x60'], rfl, ?_⟩
    simp [hblank hw]
  · have hempty : '.' ∉ literal := by
      simp only [emptyLiterals, List.mem_cons, List.not_mem_nil, or_false] at hliteral
      rcases hliteral with rfl | rfl | rfl <;> decide
    simp only [comparisons, List.mem_cons, List.not_mem_nil, or_false] at hcomparison
    have hrest : '.' ∉ w ++ (literal ++ (w' ++ [')'])) := by simp [hblank hw, hempty, hblank hw']
    rcases hcomparison with rfl | rfl | rfl
    · exact ⟨"toEqual(".toList ++ (w ++ (literal ++ (w' ++ [')']))), by simp, by simp [hrest]⟩
    · exact ⟨"toBe(".toList ++ (w ++ (literal ++ (w' ++ [')']))), by simp, by simp [hrest]⟩
    · exact ⟨"toStrictEqual(".toList ++ (w ++ (literal ++ (w' ++ [')']))), by simp, by simp [hrest]⟩

/-! ### The first marker -/

/-- The marker that stands here. -/
def marker? (t : Text) : Option Marker :=
  ((snapshotMarker? t).map Marker.snapshot).or ((emptyMarker? t).map Marker.empty)

/-- A marker in a text that begins some characters earlier. -/
def Marker.shift (n : Nat) : Marker → Marker
  | .snapshot inside => .snapshot (n + inside)
  | .empty stop => .empty (n + stop)

theorem firstMarker?_eq (t : Text) : firstMarker? t =
    (firstPlace? (fun _ => marker?) none t).map fun found => found.2.shift found.1 := by
  have hmarker : firstPlace? (fun _ => marker?) none t = _ :=
    firstPlace?_or (fun _ t => (snapshotMarker? t).map Marker.snapshot)
      (fun _ t => (emptyMarker? t).map Marker.empty) none t
  rw [hmarker, firstPlace?_map, firstPlace?_map, firstMarker?]
  cases firstPlace? (fun _ => snapshotMarker?) none t <;>
    cases firstPlace? (fun _ => emptyMarker?) none t <;>
      simp only [nearer, Option.map_some, Option.map_none, Marker.shift]
  split <;> rfl

theorem marker?_eq_none_iff {t : Text} : marker? t = none ↔ ∀ m, IsMarker m → ¬ m <+: t := by
  rw [marker?, Option.or_eq_none_iff, Option.map_eq_none_iff, Option.map_eq_none_iff]
  constructor
  · rintro ⟨hsnapshot, hempty⟩ m (hm | hm) ⟨rest, rfl⟩
    · exact absurd (snapshotMarker?_eq_some_iff.2 ⟨m, rest, hm, rfl, rfl⟩) (by simp [hsnapshot])
    · exact absurd (emptyMarker?_eq_some_iff.2 ⟨m, rest, hm, rfl, rfl⟩) (by simp [hempty])
  · intro h
    constructor
    · refine Option.eq_none_iff_forall_ne_some.2 fun n hn => ?_
      obtain ⟨m, rest, hm, rfl, -⟩ := snapshotMarker?_eq_some_iff.1 hn
      exact h m (.inl hm) (List.prefix_append m rest)
    · refine Option.eq_none_iff_forall_ne_some.2 fun n hn => ?_
      obtain ⟨m, rest, hm, rfl, -⟩ := emptyMarker?_eq_some_iff.1 hn
      exact h m (.inr hm) (List.prefix_append m rest)

/-- The first marker of a text as it is written. -/
theorem exists_of_firstMarker? {t : Text} {k : Marker} (h : firstMarker? t = some k) :
    ∃ between m rest, t = between ++ (m ++ rest) ∧
      (SnapshotMarker m ∧ k = .snapshot (between ++ m).length ∨
        EmptyMarker m ∧ k = .empty (between ++ m).length) ∧
      Text.Clear (fun _ => marker?) none between (m ++ rest) := by
  rw [firstMarker?_eq] at h
  obtain ⟨⟨n, found⟩, hfound, rfl⟩ := Option.map_eq_some_iff.1 h
  obtain ⟨between, c, x, rfl, rfl, hmarker, hclear⟩ := firstPlace?_eq_some_iff.1 hfound
  rw [marker?, Option.or_eq_some_iff, Option.map_eq_some_iff, Option.map_eq_some_iff] at hmarker
  rcases hmarker with ⟨n, hn, rfl⟩ | ⟨-, n, hn, rfl⟩
  · obtain ⟨m, rest, hm, hx, rfl⟩ := snapshotMarker?_eq_some_iff.1 hn
    exact ⟨between, m, rest, by rw [hx], .inl ⟨hm, by simp [Marker.shift]⟩, hx ▸ hclear⟩
  · obtain ⟨m, rest, hm, hx, rfl⟩ := emptyMarker?_eq_some_iff.1 hn
    exact ⟨between, m, rest, by rw [hx], .inr ⟨hm, by simp [Marker.shift]⟩, hx ▸ hclear⟩

/-- What is cut off behind the first marker does not matter: no marker that begins earlier
reaches beyond it. -/
theorem length_le_of_clear {between m rest : Text} (hm : IsMarker m)
    (hclear : Text.Clear (fun _ => marker?) none between (m ++ rest)) {behind x m' y : Text}
    (hm' : IsMarker m') (h : between ++ (m ++ behind) = x ++ (m' ++ y)) : between.length ≤ x.length := by
  obtain ⟨z, rfl, -⟩ | ⟨z, rfl, hz⟩ := List.append_eq_append_iff.1 h
  · simp
  · cases z with
    | nil => simp
    | cons c z =>
      obtain ⟨tail, rfl, hdot⟩ := hm'.exists_tail
      obtain ⟨tail', rfl, -⟩ := hm.exists_tail
      rw [← List.append_assoc] at hz
      obtain ⟨u, hu, -⟩ | ⟨u, hu, -⟩ := List.append_eq_append_iff.1 hz
      · -- The marker that begins earlier lies in what was searched.
        have hnone := marker?_eq_none_iff.1 (Text.clear_iff.1 hclear x c z rfl) _ hm'
        exact absurd ⟨u ++ rest, by rw [← List.append_assoc, ← hu]; simp⟩ hnone
      · -- It reaches over the dot of the other.
        obtain ⟨-, rfl⟩ := List.cons.inj hu
        simp at hdot

/-! ### Where a marker is looked for -/

theorem markerStretch_prefix (window : Nat) (t : Text) : markerStretch window t <+: t := by
  simp only [markerStretch]
  split
  · exact (List.take_prefix _ _).trans (Text.takeBytes_prefix window t)
  · exact Text.takeBytes_prefix window t

/-- What is searched lies within the window and in front of the next anchor. -/
theorem of_prefix_markerStretch {window : Nat} {p rest : Text} (h : p <+: markerStretch window (p ++ rest)) :
    Text.byteLength p ≤ window ∧ Text.Clear anchor? (some ']') p rest := by
  simp only [markerStretch] at h
  have hwindow {p : Text} (hp : p <+: Text.takeBytes window (p ++ rest)) : Text.byteLength p ≤ window := by
    obtain ⟨x, hx⟩ := hp
    have hle := Text.byteLength_takeBytes_le window (p ++ rest)
    rw [← hx, Text.byteLength_append] at hle
    omega
  split at h
  · next next length hnext =>
    refine ⟨hwindow (h.trans (List.take_prefix _ _)), ?_⟩
    obtain ⟨skipped, c, x, heq, rfl, -, hclear⟩ := firstPlace?_eq_some_iff.1 hnext
    have hlength : p.length ≤ skipped.length :=
      h.length_le.trans (by rw [List.length_take]; exact Nat.min_le_left _ _)
    obtain ⟨z, rfl⟩ : p <+: skipped :=
      List.prefix_of_prefix_length_le ⟨rest, rfl⟩ ⟨c :: x, heq.symm⟩ hlength
    rw [List.append_assoc] at heq
    rw [List.append_cancel_left heq]
    exact (Text.clear_append.1 hclear).1
  · next hnone =>
    refine ⟨hwindow h, ?_⟩
    have hclear := (Text.clear_append.1 (firstPlace?_eq_none_iff.1 hnone)).1
    rwa [List.append_nil] at hclear

/-! ### The marker that decides -/

/-- The marker is the first behind an array, within the window and in front of the next
anchor. -/
structure Decides (window : Nat) (between m rest : Text) : Prop where
  near : Text.byteLength (between ++ m) ≤ window
  no_anchor : Text.Clear anchor? (some ']') (between ++ m) rest
  first : ∀ x m' y, IsMarker m' → between ++ (m ++ rest) = x ++ (m' ++ y) → between.length ≤ x.length

/-- What a marker tells, with the text behind it. -/
inductive Tells : Text → Text → Expectation → Prop
  | empty {m rest : Text} : EmptyMarker m → Tells m rest .empty
  | snapshot {m rest : Text} {n : Nat} : SnapshotMarker m →
      closingQuote? '\\' '\x60' false rest = some n →
      Tells m rest (.ofSnapshot (Snapshot.unescape (rest.take n)))

theorem Tells.isMarker {m rest : Text} {expectation : Expectation} (h : Tells m rest expectation) :
    IsMarker m := by
  cases h with
  | empty hm => exact .inr hm
  | snapshot hm => exact .inl hm

theorem tells_of_expectation? {t between m rest : Text} {k : Marker} {expectation : Expectation}
    {stop : Nat} (ht : t = between ++ (m ++ rest))
    (hk : SnapshotMarker m ∧ k = .snapshot (between ++ m).length ∨
      EmptyMarker m ∧ k = .empty (between ++ m).length)
    (h : expectation? t k = some (expectation, stop)) : Tells m rest expectation := by
  rcases hk with ⟨hm, rfl⟩ | ⟨hm, rfl⟩
  · rw [ht, ← List.append_assoc, expectation?, List.drop_left] at h
    obtain ⟨n, hn, heq⟩ := Option.map_eq_some_iff.1 h
    obtain ⟨rfl, -⟩ := Prod.mk.inj heq
    exact .snapshot hm hn
  · obtain ⟨rfl, -⟩ := Prod.mk.inj (Option.some.inj h)
    exact .empty hm

/-- How an assertion on an array of tokens was read. -/
theorem decides_of_readArray? {windows : Windows} {call : Call} {t : Text} {r : Reading}
    (h : readArray? windows call t = some r) : ∃ array between m rest,
      t.drop call.inside = array ++ ']' :: (between ++ (m ++ rest)) ∧
      closing? Marks.chars .square .plain 0 (t.drop call.inside) = some array.length ∧
      tokens array = r.tokens ∧ Decides windows.lookahead between m rest ∧
      Tells m rest r.expectation := by
  obtain ⟨n, k, expectation, stop, hclose, -, hmarker, hexpectation, rfl⟩ := readArray?_eq_some_iff.1 h
  obtain ⟨between, m, cut, hstretch, hk, hclear⟩ := exists_of_firstMarker? hmarker
  obtain ⟨rest, hbehind⟩ : ∃ rest, (t.drop call.inside).drop (n + 1) = between ++ (m ++ rest) := by
    obtain ⟨x, hx⟩ := markerStretch_prefix windows.lookahead ((t.drop call.inside).drop (n + 1))
    rw [hstretch] at hx
    exact ⟨cut ++ x, by rw [← hx]; simp⟩
  have htells := tells_of_expectation? hbehind hk hexpectation
  have hprefix : between ++ m <+: markerStretch windows.lookahead (between ++ m ++ rest) := by
    rw [List.append_assoc, ← hbehind, hstretch, ← List.append_assoc]
    exact List.prefix_append _ _
  obtain ⟨hnear, hanchor⟩ := of_prefix_markerStretch hprefix
  have hlength : ((t.drop call.inside).take n).length = n :=
    List.length_take_of_le (Nat.le_of_lt (closing?_lt_length hclose))
  refine ⟨(t.drop call.inside).take n, between, m, rest, ?_, by rwa [hlength], rfl, ?_, htells⟩
  · rw [← hbehind]
    exact closing?_split hclose
  · exact ⟨hnear, hanchor, fun x m' y hm' heq => length_le_of_clear htells.isMarker hclear hm' heq⟩

/-- **The first marker behind the array decides**: a case that is evaluated has the expectation
of the first marker behind the array of its tokens. The marker ends within the window, and no
anchor begins in front of its end. -/
theorem decided_by_first_marker {windows : Windows} {b : TestBlock} {c : TestCase}
    (h : c ∈ b.cases windows) (hc : c.expectation ≠ .deferred) :
    ∃ anchor r array between m rest, (assertions windows b.text)[c.ordinal]? = some (anchor, r) ∧
      c = b.caseAt c.ordinal anchor r ∧ r.call.kind = .tokenArray ∧
      b.text.drop (anchor + r.call.inside) = array ++ ']' :: (between ++ (m ++ rest)) ∧
      closing? Marks.chars .square .plain 0 (b.text.drop (anchor + r.call.inside)) = some array.length ∧
      tokens array = c.tokens ∧ Decides windows.lookahead between m rest ∧
      Tells m rest c.expectation := by
  obtain ⟨anchor, r, hassertion, hcase⟩ := exists_assertion h
  have hread := (anchor_of_mem_assertions (List.mem_of_getElem? hassertion)).2
  have hexpectation : r.expectation = c.expectation := (congrArg TestCase.expectation hcase).symm
  have htokens : r.tokens = c.tokens := (congrArg TestCase.tokens hcase).symm
  obtain ⟨-, ⟨-, hdeferred, -⟩ | ⟨hkind, harray⟩⟩ := cases_of_reading? hread
  · exact absurd (hexpectation.symm.trans hdeferred) hc
  · obtain ⟨array, between, m, rest, htext, hclose, hfound, hdecides, htells⟩ :=
      decides_of_readArray? harray
    rw [List.drop_drop] at htext hclose
    rw [hexpectation] at htells
    exact ⟨anchor, r, array, between, m, rest, hassertion, hcase, hkind, htext, hclose,
      hfound.trans htokens, hdecides, htells⟩

/-- A snapshot behind an array, on the next line. -/
theorem decided_by_snapshot :
    let b : TestBlock := ⟨"g".toList, 1,
      "expect(await run(['a']))\n  .toMatchInlineSnapshot(\x60\".a \x7b color: red \x7d\"\x60)".toList⟩
    let c : TestCase := ⟨"g".toList, 0, 1, ["a".toList], .css ".a \x7b color: red \x7d".toList⟩
    (c ∈ b.cases {} ∧ c.expectation ≠ .deferred) ∧
    ∃ anchor r array between m rest, (assertions {} b.text)[c.ordinal]? = some (anchor, r) ∧
      c = b.caseAt c.ordinal anchor r ∧ r.call.kind = .tokenArray ∧
      b.text.drop (anchor + r.call.inside) = array ++ ']' :: (between ++ (m ++ rest)) ∧
      closing? Marks.chars .square .plain 0 (b.text.drop (anchor + r.call.inside)) = some array.length ∧
      tokens array = c.tokens ∧ Decides ({} : Windows).lookahead between m rest ∧
      Tells m rest c.expectation := by
  intro b c
  have h : c ∈ b.cases {} := by decide +kernel
  have hc : c.expectation ≠ .deferred := by decide
  exact ⟨⟨h, hc⟩, decided_by_first_marker h hc⟩

/-- Between the array and the marker that decides other text may stand: a call on the output, or
a negation. -/
theorem decided_behind_other_text :
    let trimmed : TestBlock := ⟨"g".toList, 1, "expect((await run(['a'])).trim()).toEqual('')".toList⟩
    let negated : TestBlock := ⟨"g".toList, 1, "expect(await run(['a'])).not.toEqual('')".toList⟩
    let c : TestCase := ⟨"g".toList, 0, 1, ["a".toList], .empty⟩
    (trimmed.cases {} = [c] ∧
      trimmed.text.drop 22 = "]".toList ++ ")).trim())".toList ++ ".toEqual('')".toList) ∧
    negated.cases {} = [c] ∧
      negated.text.drop 21 = "]".toList ++ ")).not".toList ++ ".toEqual('')".toList := by
  decide +kernel

end StyleSnapshot.Fixture
