import StyleSnapshot.Fixture.Block
import StyleSnapshot.Proofs.Offsets.Basic

/-! Test blocks by offsets.

A reader that keeps the fixture whole remembers of an open block where it begins, and cuts the
block out when its last line has been read. In front of a line the offset is the length of the
lines before it, and an open block is their end (`Spans`), so that what is cut out are the lines
of the block (`readLine_append`). -/
namespace StyleSnapshot.Offsets

open Text (byteLength)
open Fixture (OpenBlock TestBlock bareLine declaredName? closesItself closesBlock)

/-- A block whose closing line has not been seen, by where it begins. -/
structure OpenSpan where
  name : Text
  startLine : Nat
  startOffset : Nat
  /-- How many braces it leaves open. -/
  depth : Int
  deriving DecidableEq, Repr

/-- Reads the line between two offsets: the block that is open behind it, and the block it
completes. -/
def readLine (source : Text) (number : Nat) (state : Option OpenSpan) (start : Nat)
    (rawLine : Text) : Except Fault (Option OpenSpan × Option TestBlock) :=
  let stop := start + byteLength rawLine
  let line := bareLine rawLine
  match state with
  | none =>
    match declaredName? line with
    | none => .ok (none, none)
    | some name =>
      if braceBalance line ≤ 0 ∧ closesItself line then
        (slice source start stop).map fun text => (none, some ⟨name, number, text⟩)
      else .ok (some ⟨name, number, start, braceBalance line⟩, none)
  | some b =>
    let b : OpenSpan := ⟨b.name, b.startLine, b.startOffset, b.depth + braceBalance line⟩
    if b.depth ≤ 0 ∧ closesBlock line then
      (slice source b.startOffset stop).map fun text => (none, some ⟨b.name, b.startLine, text⟩)
    else .ok (some b, none)

/-- The blocks completed by the given lines, the first of which begins at an offset. -/
def blocksFrom (source : Text) (number : Nat) (state : Option OpenSpan) (offset : Nat) :
    List Text → Except Fault (List TestBlock)
  | [] => .ok []
  | line :: more => do
    let (next, completed) ← readLine source number state offset line
    let rest ← blocksFrom source (number + 1) next (offset + byteLength line) more
    return completed.toList ++ rest

/-- The test blocks of a fixture. -/
def blocks (source : Text) : Except Fault (List TestBlock) :=
  blocksFrom source 1 none 0 (Text.lines source)

/-- What is remembered of the lines in front, if anything, and by which offset. -/
inductive Spans : Text → Option OpenBlock → Option OpenSpan → Prop
  | idle (front : Text) : Spans front none none
  | within (before : Text) (b : OpenBlock) : Spans (before ++ b.lines.reverse.flatten) (some b)
      (some ⟨b.name, b.startLine, byteLength before, b.depth⟩)

/-- One line. -/
theorem readLine_append {front : Text} {state : Option OpenBlock} {span : Option OpenSpan}
    (h : Spans front state span) (number : Nat) (line rest : Text) :
    ∃ next, readLine (front ++ (line ++ rest)) number span (byteLength front) line =
        .ok (next, (Fixture.readLine number state line).2) ∧
      Spans (front ++ line) (Fixture.readLine number state line).1 next := by
  cases h with
  | idle =>
    rw [readLine, Fixture.readLine]
    cases declaredName? (bareLine line) with
    | none => exact ⟨none, rfl, .idle _⟩
    | some name =>
      dsimp only
      split
      · rw [slice_append]
        exact ⟨none, rfl, .idle _⟩
      · have hspans := Spans.within front ⟨name, number, [line], braceBalance (bareLine line)⟩
        rw [List.reverse_singleton, List.flatten_singleton] at hspans
        exact ⟨_, rfl, hspans⟩
  | within before b =>
    rw [readLine, Fixture.readLine]
    dsimp only
    split
    · have hslice := slice_append before (b.lines.reverse.flatten ++ line) rest
      rw [Text.byteLength_append, ← Nat.add_assoc, ← Text.byteLength_append, List.append_assoc,
        ← List.append_assoc] at hslice
      rw [hslice, OpenBlock.close, List.reverse_cons, List.flatten_append, List.flatten_singleton]
      exact ⟨none, rfl, .idle _⟩
    · have hspans := Spans.within before
        ⟨b.name, b.startLine, line :: b.lines, b.depth + braceBalance (bareLine line)⟩
      rw [List.reverse_cons, List.flatten_append, List.flatten_singleton, ← List.append_assoc] at hspans
      exact ⟨_, rfl, hspans⟩

/-- All lines. -/
theorem blocksFrom_append {front : Text} {state : Option OpenBlock} {span : Option OpenSpan}
    (h : Spans front state span) (number : Nat) (lines : List Text) :
    blocksFrom (front ++ lines.flatten) number span (byteLength front) lines =
      .ok (Fixture.blocksFrom number state lines) := by
  induction lines generalizing front state span number with
  | nil => rfl
  | cons line more ih =>
    obtain ⟨next, hline, hspans⟩ := readLine_append h number line more.flatten
    have hmore := ih hspans (number + 1)
    rw [List.append_assoc, Text.byteLength_append] at hmore
    rw [List.flatten_cons, blocksFrom, hline]
    show (do
      let rest ← blocksFrom (front ++ (line ++ more.flatten)) (number + 1) next
        (byteLength front + byteLength line) more
      return (Fixture.readLine number state line).2.toList ++ rest) = _
    rw [hmore]
    rfl

theorem blocks_eq (source : Text) : blocks source = .ok (Fixture.blocks source) := by
  have h := blocksFrom_append (.idle []) 1 (Text.lines source)
  rwa [Text.flatten_lines] at h

end StyleSnapshot.Offsets
