import Mathlib.Data.List.Forall2
import StyleSnapshot.Proofs.Fixture.Grammar
import StyleSnapshot.Proofs.Fixture.Markers
import StyleSnapshot.Proofs.Fixture.Pairing
import StyleSnapshot.Proofs.Text.Lines
import StyleSnapshot.Proofs.Text.Parts

/-! Where a case comes from.

A block stands in its fixture behind whole lines, as many as its number tells (`Stands`), and
within a block each round begins to look for an anchor where the one before it ended (`Follows`).
So a case can be traced to its anchor, and the line it reports is that of the anchor in the
fixture: `cases_traced`. -/
namespace StyleSnapshot.Fixture

/-! ### Blocks in the fixture -/

/-- The block stands in the source behind the whole lines `before`. -/
structure Stands (source before : Text) (b : TestBlock) : Prop where
  whole : Text.Whole before
  slice : ∃ behind, source = before ++ b.text ++ behind
  number : b.startLine = 1 + Text.newlines before

/-- The blocks are runs of the lines, in their order, and begin with the line of their number. -/
theorem Divides.exists_lines {number : Nat} {ls : List Text} {bs : List TestBlock}
    (h : Divides number ls bs) {b : TestBlock} (hb : b ∈ bs) : ∃ before first later rest,
      ls = before ++ (first :: later) ++ rest ∧ b.text = (first :: later).flatten ∧
        b.startLine = number + before.length := by
  induction h with
  | nil => exact absurd hb List.not_mem_nil
  | @outside number line more bs _ _ ih =>
    obtain ⟨before, first, later, rest, rfl, htext, hstart⟩ := ih hb
    refine ⟨line :: before, first, later, rest, rfl, htext, ?_⟩
    rw [hstart, List.length_cons]
    omega
  | @block number name first later rest bs _ _ ih =>
    rcases List.mem_cons.1 hb with rfl | hb
    · exact ⟨[], first, later, rest, rfl, rfl, rfl⟩
    · obtain ⟨before, first', later', rest', rfl, htext, hstart⟩ := ih hb
      refine ⟨first :: later ++ before, first', later', rest', by simp, htext, ?_⟩
      rw [hstart, List.length_append, List.length_cons]
      omega
  | unclosed _ => exact absurd hb List.not_mem_nil

theorem exists_stands {source : Text} {b : TestBlock} (hb : b ∈ blocks source) :
    ∃ before, Stands source before b := by
  have hdivides := divides_blocksFrom 1 (Text.lines source)
  obtain ⟨before, first, later, rest, hlines, htext, hstart⟩ := hdivides.exists_lines hb
  have hsource := Text.flatten_lines source
  rw [hlines, List.flatten_append, List.flatten_append, ← htext] at hsource
  rw [List.append_assoc, List.cons_append] at hlines
  obtain ⟨hwhole, hcount⟩ := Text.whole_of_lines_eq_append hlines
  exact ⟨before.flatten, hwhole, ⟨rest.flatten, hsource.symm⟩, by rw [hstart, hcount]⟩

/-- A block ends above the line that the next one begins with. -/
theorem Divides.pairwise {number : Nat} {ls : List Text} {bs : List TestBlock}
    (h : Divides number ls bs) (hls : ∀ line ∈ ls, Text.newlines line ≤ 1) :
    (∀ b ∈ bs, number ≤ b.startLine) ∧
      bs.Pairwise fun b c => b.startLine + Text.newlines b.text ≤ c.startLine := by
  induction h with
  | nil => exact ⟨fun b hb => absurd hb List.not_mem_nil, .nil⟩
  | outside _ _ ih =>
    obtain ⟨hbehind, hpairs⟩ := ih fun line hline => hls line (List.mem_cons_of_mem _ hline)
    exact ⟨fun b hb => Nat.le_of_succ_le (hbehind b hb), hpairs⟩
  | @block number name first later rest bs _ _ ih =>
    obtain ⟨hbehind, hpairs⟩ := ih fun line hline => hls line (List.mem_append_right _ hline)
    have hcount : Text.newlines (first :: later).flatten ≤ later.length + 1 :=
      Text.newlines_flatten_le fun line hline => hls line (List.mem_append_left _ hline)
    refine ⟨fun b hb => ?_, List.pairwise_cons.2 ⟨fun b hb => ?_, hpairs⟩⟩
    · rcases List.mem_cons.1 hb with rfl | hb
      · exact Nat.le_refl number
      · exact Nat.le_trans (Nat.le_add_right _ _) (hbehind b hb)
    · exact Nat.le_trans (Nat.add_le_add_left hcount number) (hbehind b hb)
  | unclosed _ => exact ⟨fun b hb => absurd hb List.not_mem_nil, .nil⟩

theorem pairwise_blocks (source : Text) :
    (blocks source).Pairwise fun b c => b.startLine + Text.newlines b.text ≤ c.startLine :=
  ((divides_blocksFrom 1 (Text.lines source)).pairwise fun _ => Text.newlines_line_le).2

/-! ### Anchors in the fixture -/

theorem anchor?_append {before : Option Char} {t : Text} (h : (anchor? before t).isSome) (x : Text) :
    (anchor? before (t ++ x)).isSome := by
  rw [anchor?] at h ⊢
  split at h
  · next hanchor =>
    rw [Bool.and_eq_true] at hanchor
    obtain ⟨rest, hrest⟩ := Option.isSome_iff_exists.1 hanchor.2
    rw [hanchor.1, Text.startsWith, Text.after?_append hrest x]
    rfl
  · exact absurd h Bool.false_ne_true

/-- A word begins behind whole lines as it does at the beginning. -/
theorem anchor?_of_whole {before t : Text} (hbefore : Text.Whole before)
    (h : (anchor? none t).isSome) : (anchor? (Text.endOf none before) t).isSome := by
  obtain rfl | ⟨a, rfl⟩ := hbefore
  · exact h
  · rw [Text.endOf_concat]
    exact h

theorem AnchorAt.lt_length {t : Text} {place : Nat} (h : AnchorAt t place) : place < t.length := by
  obtain ⟨rest, hdrop⟩ := h.exists_drop
  refine Nat.lt_of_not_le fun hle => ?_
  rw [List.drop_of_length_le hle] at hdrop
  exact absurd hdrop (List.cons_ne_nil _ _).symm

/-- The anchors of a block are anchors of the fixture. -/
theorem AnchorAt.of_block {before t : Text} {place : Nat} (h : AnchorAt t place)
    (hbefore : Text.Whole before) (behind : Text) :
    AnchorAt (before ++ t ++ behind) (before.length + place) := by
  rw [AnchorAt, List.append_assoc]
  cases place with
  | zero =>
    rw [Nat.add_zero, at?_append]
    exact anchor?_of_whole hbefore (anchor?_append h behind)
  | succ k =>
    have hlt : k + 1 < t.length := h.lt_length
    rw [← at?_drop, List.drop_left, at?, charBefore, List.getElem?_append_left (Nat.lt_of_succ_lt hlt),
      List.drop_append_of_le_length (Nat.le_of_lt hlt)]
    exact anchor?_append h behind

/-! ### From case to case -/

/-- Behind the beginning of a call there is something of it before its inside. -/
theorem pos_of_call? {before : Option Char} {t : Text} {kind : CallKind} {n : Nat}
    (h : call? before t = some (kind, n)) : 0 < n := by
  rcases Option.or_eq_some_iff.1 h with h | ⟨-, h⟩
  · obtain ⟨m, harray, hm⟩ := Option.map_eq_some_iff.1 h
    obtain ⟨-, rfl⟩ := Prod.mk.inj hm
    rw [tokenCall?] at harray
    split at harray
    · obtain ⟨w, rest, -, -, rfl⟩ := (opened?_eq_some_iff (by decide)).1 harray
      exact Nat.succ_pos _
    · exact absurd harray.symm (Option.some_ne_none m)
  · obtain ⟨m, hthemed, hm⟩ := Option.map_eq_some_iff.1 h
    obtain ⟨-, rfl⟩ := Prod.mk.inj hm
    rw [themedCall?] at hthemed
    split at hthemed
    · rw [← Option.some.inj hthemed]
      decide
    · exact absurd hthemed.symm (Option.some_ne_none m)

/-- Whatever feeds an assertion, reading goes on inside of it or further on. -/
theorem inside_le_stop {windows : Windows} {t : Text} {r : Reading}
    (h : reading? windows t = some r) : r.call.inside ≤ r.stop := by
  rw [reading?] at h
  split at h
  · exact absurd h.symm (Option.some_ne_none r)
  · next call _ =>
    split at h
    · obtain rfl := Option.some.inj h
      exact Nat.le_refl call.inside
    · obtain ⟨n, _, _, stop, -, -, -, -, rfl⟩ := readArray?_eq_some_iff.1 h
      show call.inside ≤ call.inside + (n + 1) + stop
      omega

/-- Reading goes on behind the beginning of the call that was taken. -/
theorem call_lt_stop {windows : Windows} {t : Text} {r : Reading} (h : reading? windows t = some r) :
    r.call.start < r.stop := by
  obtain ⟨n, hinside, hcall, -⟩ := nearestCall?_eq_some_iff.1 (cases_of_reading? h).1
  have hn : 0 < n := pos_of_call? hcall
  have hstop := inside_le_stop h
  omega

theorem Round.anchor_le_next (r : Round) : r.anchor ≤ r.next := by
  rw [Round.next]
  split <;> omega

/-- Behind an anchor the next is looked for where the reading from it ended. -/
theorem rounds_pairwise (windows : Windows) (t : Text) (start : Nat) :
    (∀ r ∈ rounds windows t start, start ≤ r.anchor) ∧
      (rounds windows t start).Pairwise fun r s => r.next ≤ s.anchor := by
  fun_induction rounds windows t start with
  | case1 start hnone => exact ⟨fun r hr => absurd hr List.not_mem_nil, .nil⟩
  | case2 start first hfirst ih =>
    obtain ⟨hbehind, hpairs⟩ := ih
    have hstart : start ≤ first.anchor := by
      obtain ⟨found, -, rfl⟩ := Option.map_eq_some_iff.1 hfirst
      exact Nat.le_add_right start found.1
    refine ⟨fun r hr => ?_, List.pairwise_cons.2 ⟨hbehind, hpairs⟩⟩
    rcases List.mem_cons.1 hr with rfl | hr
    · exact hstart
    · exact hstart.trans (first.anchor_le_next.trans (hbehind r hr))

/-- The second assertion is read behind the first: its anchor stands where the reading of the first
ended or further on, and its call behind that of the first. -/
structure Follows (a b : Nat × Reading) : Prop where
  anchor : a.1 < b.1
  behind : a.1 + a.2.stop ≤ b.1
  call : a.1 + a.2.call.start < b.1 + b.2.call.start

theorem assertions_pairwise (windows : Windows) (t : Text) :
    (assertions windows t).Pairwise Follows := by
  have hnext : (assertions windows t).Pairwise fun a b =>
      max (a.1 + a.2.stop) (a.1 + anchorText.length) ≤ b.1 := by
    refine List.Pairwise.filterMap _ ?_ (rounds_pairwise windows t 0).2
    rintro ⟨anchor, reading⟩ ⟨anchor', reading'⟩ hle a ha b hb
    obtain ⟨r, rfl, rfl⟩ := Option.map_eq_some_iff.1 ha
    obtain ⟨r', rfl, rfl⟩ := Option.map_eq_some_iff.1 hb
    exact hle
  refine hnext.imp_of_mem fun {a b} ha _ hle => ?_
  have hlength : anchorText.length = 7 := rfl
  have hcall := call_lt_stop (anchor_of_mem_assertions ha).2
  exact ⟨by omega, by omega, by omega⟩

/-! ### Cases -/

/-- The case is that of the assertion `r`, read from the anchor at a place of the block `b`, which
stands behind `before`. -/
structure ReadFrom (windows : Windows) (source before : Text) (b : TestBlock) (c : TestCase)
    (anchor : Nat) (r : Reading) : Prop where
  group : c.group = b.name
  tokens : c.tokens = r.tokens
  expectation : c.expectation = r.expectation
  /-- Its call is the first behind the anchor. -/
  fed : Fed windows b.text anchor r
  /-- The anchor of the block is one of the source. -/
  anchored : AnchorAt source (before.length + anchor)
  line : c.line = 1 + Text.newlines (source.take (before.length + anchor))
  some_token : c.expectation ≠ .deferred → c.tokens ≠ []

/-- The cases of a block that stands behind `before` are those of its assertions, numbered in their
order, each of which is read behind the one before. -/
structure Traced (windows : Windows) (source before : Text) (b : TestBlock) : Prop where
  ordinals : (b.cases windows).map (·.ordinal) = List.range (b.cases windows).length
  read : List.Forall₂ (fun c a => ReadFrom windows source before b c a.1 a.2) (b.cases windows)
    (assertions windows b.text)
  in_turn : (assertions windows b.text).Pairwise Follows

theorem tokens_ne_nil {windows : Windows} {t : Text} {r : Reading} (h : reading? windows t = some r)
    (hexpectation : r.expectation ≠ .deferred) : r.tokens ≠ [] := by
  obtain ⟨-, ⟨-, hdeferred, -⟩ | ⟨-, harray⟩⟩ := cases_of_reading? h
  · exact absurd hdeferred hexpectation
  · obtain ⟨_, _, _, _, -, hne, -, -, hr⟩ := readArray?_eq_some_iff.1 harray
    rw [hr]
    exact hne

theorem readFrom_of_mem {windows : Windows} {source before : Text} {b : TestBlock}
    (h : Stands source before b) {anchor : Nat} {r : Reading}
    (hmem : (anchor, r) ∈ assertions windows b.text) (ordinal : Nat) :
    ReadFrom windows source before b (b.caseAt ordinal anchor r) anchor r := by
  obtain ⟨hanchor, hread⟩ := anchor_of_mem_assertions hmem
  obtain ⟨behind, rfl⟩ := h.slice
  have hinside : anchor ≤ b.text.length := Nat.le_of_lt hanchor.lt_length
  refine ⟨rfl, rfl, rfl, fed_of_mem_assertions hmem, hanchor.of_block h.whole behind, ?_,
    tokens_ne_nil hread⟩
  have htake : (before ++ b.text ++ behind).take (before.length + anchor) =
      before ++ b.text.take anchor := by
    rw [List.append_assoc, List.take_length_add_append, List.take_append_of_le_length hinside]
  rw [htake, Text.newlines_append, ← Nat.add_assoc, ← h.number]
  rfl

theorem Stands.traced {source before : Text} {b : TestBlock} (h : Stands source before b)
    (windows : Windows) : Traced windows source before b := by
  refine ⟨?_, ?_, assertions_pairwise windows b.text⟩
  · rw [TestBlock.cases, List.map_map, List.length_map, List.length_zipIdx, List.range_eq_range']
    exact List.zipIdx_map_snd 0 (assertions windows b.text)
  · have hassertions := List.zipIdx_map_fst 0 (assertions windows b.text)
    rw [TestBlock.cases, ← hassertions, List.forall₂_map_left_iff, List.forall₂_map_right_iff,
      hassertions, List.forall₂_same]
    rintro ⟨⟨anchor, r⟩, ordinal⟩ hmem
    exact readFrom_of_mem h (List.mem_of_getElem? (List.mem_zipIdx_iff_getElem?.1 hmem)) ordinal

/-! ### Lines -/

theorem map_line (windows : Windows) (b : TestBlock) : (b.cases windows).map (·.line) =
    (assertions windows b.text).map fun a => b.startLine + Text.newlines (b.text.take a.1) := by
  conv_rhs => rw [← List.zipIdx_map_fst 0 (assertions windows b.text)]
  rw [TestBlock.cases, List.map_map, List.map_map]
  rfl

theorem newlines_take_le {t : Text} {m n : Nat} (h : m ≤ n) :
    Text.newlines (t.take m) ≤ Text.newlines (t.take n) :=
  (List.take_sublist_take_left h).count_le '\n'

theorem lines_pairwise_block (windows : Windows) (b : TestBlock) :
    ((b.cases windows).map (·.line)).Pairwise (· ≤ ·) := by
  rw [map_line, List.pairwise_map]
  exact (assertions_pairwise windows b.text).imp fun h =>
    Nat.add_le_add_left (newlines_take_le (Nat.le_of_lt h.anchor)) b.startLine

theorem line_of_mem_cases {windows : Windows} {b : TestBlock} {line : Nat}
    (h : line ∈ (b.cases windows).map (·.line)) :
    b.startLine ≤ line ∧ line ≤ b.startLine + Text.newlines b.text := by
  rw [map_line] at h
  obtain ⟨a, -, rfl⟩ := List.mem_map.1 h
  exact ⟨Nat.le_add_right _ _,
    Nat.add_le_add_left ((List.take_sublist a.1 b.text).count_le '\n') b.startLine⟩

theorem lines_pairwise (windows : Windows) (source : Text) :
    ((cases windows source).map (·.line)).Pairwise (· ≤ ·) := by
  rw [cases, List.map_flatMap, List.pairwise_flatMap]
  refine ⟨fun b _ => lines_pairwise_block windows b, (pairwise_blocks source).imp ?_⟩
  intro b c hle line hline line' hline'
  exact (line_of_mem_cases hline).2.trans (hle.trans (line_of_mem_cases hline').1)

/-- **Every case can be traced to its assertion**: the cases of a block are its assertions in their
order, read one behind the other, each reports the line of an anchor of the source, and from case to
case the line never goes up. -/
theorem cases_traced (windows : Windows) (source : Text) :
    (∀ b ∈ blocks source, ∃ before, Stands source before b ∧ Traced windows source before b) ∧
      ((cases windows source).map (·.line)).Pairwise (· ≤ ·) := by
  refine ⟨fun b hb => ?_, lines_pairwise windows source⟩
  obtain ⟨before, hstands⟩ := exists_stands hb
  exact ⟨before, hstands, hstands.traced windows⟩

end StyleSnapshot.Fixture
