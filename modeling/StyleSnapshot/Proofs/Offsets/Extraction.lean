import StyleSnapshot.Fixture.Case
import StyleSnapshot.Proofs.Offsets.Assertions
import StyleSnapshot.Proofs.Offsets.Blocks

/-! Extraction by offsets.

A block is read turn by turn from a cursor on. Each turn has to move the cursor forward and keep
it within the block, or the loop would be stuck. It never is: a turn is the round that is read
character by character (`turn_append`), and a longer beginning of a text takes more bytes. So the
turns give the cases of the block, unless a place and a window together are no offset any more
(`extraction_by_offsets`). -/
namespace StyleSnapshot.Offsets

open Text (byteLength)
open Fixture (anchor? anchorText Reading Round TestBlock TestCase Windows)

/-- What one anchor comes to: the next cursor, and the case if there is one. -/
structure Turn where
  next : Nat
  case? : Option TestCase
  deriving DecidableEq, Repr

/-- Takes up what was read at the anchor between two offsets. -/
def record (b : TestBlock) (ordinal start stop : Nat) : Option Extracted → Except Fault Turn
  | none => .ok ⟨stop, none⟩
  | some found => do
    let front ← slice b.text 0 start
    return ⟨max found.resumeAt stop, some
      { group := b.name, ordinal, line := b.startLine + Text.newlines front,
        tokens := found.tokens, expectation := found.expectation }⟩

section Window
variable (limit : Nat) (windows : Windows)

/-- The first anchor at the cursor or behind it. -/
def turn (b : TestBlock) (cursor ordinal : Nat) : Except Fault (Option Turn) := do
  match ← find anchor? b.text cursor with
  | none => return none
  | some place =>
    let found ← extract limit windows b.text place.1
    let turn ← record b ordinal place.1 place.2 found
    return some turn

/-- The anchors of a block at the cursor or behind it. -/
def turns (b : TestBlock) (cursor ordinal : Nat) : Except Fault (List Turn) :=
  match turn limit windows b cursor ordinal with
  | .error fault => .error fault
  | .ok none => .ok []
  | .ok (some t) =>
    if cursor < t.next ∧ t.next ≤ byteLength b.text then
      (turns b t.next (ordinal + t.case?.toList.length)).map (t :: ·)
    else .error .stuck
termination_by byteLength b.text - cursor

end Window

/-- What a round becomes in a text that is measured in bytes. -/
def ofRound (b : TestBlock) (ordinal : Nat) (r : Round) : Turn :=
  ⟨byteLength (b.text.take r.next), r.reading.map (b.caseAt ordinal r.anchor)⟩

def ofRounds (b : TestBlock) (ordinal : Nat) : List Round → List Turn
  | [] => []
  | r :: more => ofRound b ordinal r :: ofRounds b (ordinal + r.reading.toList.length) more

theorem eq_of_anchor? {before : Option Char} {t : Text} {n : Nat} (h : anchor? before t = some n) :
    Text.startsWith anchorText t = true ∧ n = anchorText.length := by
  rw [Fixture.anchor?] at h
  split at h
  · next hanchor => exact ⟨((Bool.and_eq_true _ _).mp hanchor).2, (Option.some.inj h).symm⟩
  · exact absurd h.symm (Option.some_ne_none n)

/-- An anchor is taken up by what is read from it. -/
theorem record_append {b : TestBlock} {a x : Text} (hb : b.text = a ++ x) (ordinal : Nat)
    (reading : Option Reading) :
    record b ordinal (byteLength a) (byteLength a + byteLength (x.take anchorText.length))
      (reading.map (ofReading a x)) = .ok (ofRound b ordinal ⟨a.length, reading⟩) := by
  have htake (n : Nat) : byteLength (b.text.take (a.length + n)) =
      byteLength a + byteLength (x.take n) := by
    rw [hb, List.take_length_add_append, Text.byteLength_append]
  cases reading with
  | none => rw [ofRound, Round.next, htake]; rfl
  | some r =>
    have hfront : slice b.text 0 (byteLength a) = .ok a := by
      have hslice := slice_append [] a x
      rwa [List.nil_append, byteLength, Nat.zero_add, ← hb] at hslice
    rw [Option.map_some, record, hfront, ofRound, Round.next, byteLength_take_max, htake, htake,
      Option.map_some, TestBlock.caseAt, hb, List.take_left]
    rfl

/-- One turn is one round. -/
theorem turn_append (limit : Nat) (windows : Windows) {b : TestBlock} {p y : Text}
    (hb : b.text = p ++ y) (ordinal : Nat) :
    UpToOverflow limit windows.lookahead (byteLength b.text)
      (turn limit windows b (byteLength p) ordinal)
      ((Fixture.round? windows b.text p.length).map (ofRound b ordinal)) := by
  have hfind := find_append anchor? p y
  have hround : Fixture.round? windows b.text p.length =
      (Fixture.firstPlace? anchor? (Text.endOf none p) y).map fun found =>
        ⟨p.length + found.1, Fixture.reading? windows (b.text.drop (p.length + found.1))⟩ := by
    rw [Fixture.round?, hb, Fixture.charBefore_append, List.drop_left]
  rw [← hb] at hfind
  rw [turn, hfind, hround]
  cases hfirst : Fixture.firstPlace? anchor? (Text.endOf none p) y with
  | none => exact .inl rfl
  | some found =>
    obtain ⟨skipped, c, rest, rfl, hskipped, hanchor, -⟩ := Fixture.firstPlace?_eq_some_iff.1 hfirst
    obtain ⟨hstarts, hlength⟩ := eq_of_anchor? hanchor
    have htext : b.text = (p ++ skipped) ++ c :: rest := by rw [hb, List.append_assoc]
    have hstart : byteLength p + byteLength ((skipped ++ c :: rest).take found.1) =
        byteLength (p ++ skipped) := by
      rw [← hskipped, List.take_left, Text.byteLength_append]
    have hstop : byteLength p + byteLength ((skipped ++ c :: rest).take (found.1 + found.2)) =
        byteLength (p ++ skipped) + byteLength ((c :: rest).take anchorText.length) := by
      rw [← hskipped, hlength, List.take_length_add_append, Text.byteLength_append,
        Text.byteLength_append, Nat.add_assoc]
    have hanchor : p.length + found.1 = (p ++ skipped).length := by
      rw [← hskipped, List.length_append]
    have hdrop : b.text.drop (p ++ skipped).length = c :: rest := by rw [htext, List.drop_left]
    have hextract := extract_append limit windows (a := p ++ skipped) hstarts
    rw [← htext] at hextract
    simp only [Option.map_some, hstart, hstop, hanchor, hdrop]
    refine hextract.bind (.inl ?_)
    rw [record_append htext]
    rfl

/-- A place behind the end of a text is like its end. -/
theorem round?_take (windows : Windows) (t : Text) (start : Nat) :
    Fixture.round? windows t (t.take start).length = Fixture.round? windows t start := by
  rw [List.length_take]
  rcases Nat.le_total start t.length with h | h
  · rw [Nat.min_eq_left h]
  · rw [Nat.min_eq_right h, Fixture.round?, Fixture.round?, List.drop_length, List.drop_of_length_le h]
    rfl

/-- All turns are all rounds. -/
theorem turns_eq (limit : Nat) (windows : Windows) (b : TestBlock) (start ordinal : Nat) :
    UpToOverflow limit windows.lookahead (byteLength b.text)
      (turns limit windows b (byteLength (b.text.take start)) ordinal)
      (ofRounds b ordinal (Fixture.rounds windows b.text start)) := by
  induction hn : b.text.length - start using Nat.strongRecOn generalizing start ordinal with
  | ind n ih =>
    have hturn := turn_append limit windows (List.take_append_drop start b.text).symm ordinal
    rw [round?_take] at hturn
    rcases hturn with hturn | ⟨place, hplace, hlimit, hturn⟩
    · cases hround : Fixture.round? windows b.text start with
      | none =>
        rw [hround] at hturn
        refine .inl ?_
        rw [turns, hturn, Fixture.rounds_of_none hround]
        rfl
      | some r =>
        rw [hround] at hturn
        obtain ⟨hlt, hnext⟩ := Fixture.start_lt_next hround
        have hforward : byteLength (b.text.take start) < (ofRound b ordinal r).next ∧
            (ofRound b ordinal r).next ≤ byteLength b.text := by
          refine ⟨byteLength_take_lt hnext hlt, ?_⟩
          have hle := byteLength_take_le (Nat.le_max_left r.next b.text.length) b.text
          rwa [List.take_of_length_le (Nat.le_max_right _ _)] at hle
        have hmore := ih (b.text.length - r.next) (by omega) r.next
          (ordinal + r.reading.toList.length) rfl
        have hordinal : (ofRound b ordinal r).case?.toList.length = r.reading.toList.length := by
          rw [ofRound]
          cases r.reading <;> rfl
        rw [turns, hturn, Fixture.rounds_of_some hround]
        simp only [Option.map_some, if_pos hforward, hordinal]
        exact hmore.map _
    · refine .inr ⟨place, hplace, hlimit, ?_⟩
      rw [turns, hturn]

theorem cases_ofRounds (b : TestBlock) (ordinal : Nat) (rounds : List Round) :
    (ofRounds b ordinal rounds).filterMap (·.case?) =
      ((rounds.filterMap fun r => r.reading.map (r.anchor, ·)).zipIdx ordinal).map
        fun ((anchor, reading), ordinal) => b.caseAt ordinal anchor reading := by
  induction rounds generalizing ordinal with
  | nil => rfl
  | cons r more ih =>
    obtain ⟨anchor, reading⟩ := r
    cases reading with
    | none => exact ih ordinal
    | some reading => exact congrArg (b.caseAt ordinal anchor reading :: ·) (ih (ordinal + 1))

/-- Turns move the cursor forward and keep it within the block. -/
theorem turns_increase {limit : Nat} {windows : Windows} {b : TestBlock} {cursor ordinal : Nat}
    {ts : List Turn} (h : turns limit windows b cursor ordinal = .ok ts) :
    (cursor :: ts.map (·.next)).Pairwise (· < ·) ∧ ∀ t ∈ ts, t.next ≤ byteLength b.text := by
  fun_induction turns limit windows b cursor ordinal generalizing ts with
  | case1 => cases h
  | case2 =>
    obtain rfl := Except.ok.inj h
    exact ⟨List.pairwise_singleton _ _, fun t ht => absurd ht List.not_mem_nil⟩
  | case3 cursor ordinal t hturn hforward ih =>
    cases hmore : turns limit windows b t.next (ordinal + t.case?.toList.length) with
    | error fault =>
      rw [hmore] at h
      cases h
    | ok more =>
      rw [hmore] at h
      obtain rfl := Except.ok.inj h
      obtain ⟨hpairs, hwithin⟩ := ih hmore
      refine ⟨List.pairwise_cons.2 ⟨fun next hnext => ?_, hpairs⟩, fun s hs => ?_⟩
      · rcases List.mem_cons.1 hnext with rfl | hnext
        · exact hforward.1
        · exact Nat.lt_trans hforward.1 ((List.pairwise_cons.1 hpairs).1 next hnext)
      · rcases List.mem_cons.1 hs with rfl | hs
        · exact hforward.2
        · exact hwithin s hs
  | case4 => cases h

/-- **Extraction stays within the text.** No slice leaves it or divides a character, no difference
of offsets is negative and no loop gets stuck: the blocks are found, and the turns through a block
give its cases while the cursor grows and does not pass the end of the block. All that may go
wrong is that a place in the block and the window together are more than an offset can be. -/
theorem extraction_by_offsets (limit : Nat) (windows : Windows) :
    (∀ source, blocks source = .ok (Fixture.blocks source)) ∧
    ∀ b : TestBlock,
      (∃ ts, turns limit windows b 0 0 = .ok ts ∧ ts.filterMap (·.case?) = b.cases windows ∧
        (0 :: ts.map (·.next)).Pairwise (· < ·) ∧ ∀ t ∈ ts, t.next ≤ byteLength b.text) ∨
      ∃ place ≤ byteLength b.text, limit ≤ place + windows.lookahead ∧
        turns limit windows b 0 0 = .error (.overflow place windows.lookahead) := by
  refine ⟨blocks_eq, fun b => ?_⟩
  rcases turns_eq limit windows b 0 0 with hturns | hoverflow
  · rw [List.take_zero, byteLength] at hturns
    obtain ⟨hforward, hwithin⟩ := turns_increase hturns
    exact .inl ⟨_, hturns, cases_ofRounds b 0 _, hforward, hwithin⟩
  · exact .inr hoverflow

end StyleSnapshot.Offsets
