import StyleSnapshot.Fixture.Case
import StyleSnapshot.Proofs.Text.Lines

/-! Fixtures one behind the other.

The line machine carries an open block from line to line and nothing else. Behind whole
lines that leave no block open (`Idle`) it is where it was at the beginning, save for the
number of the line, and that number only ever becomes the first line of a block
(`blocksFrom_down`). What is read from a block depends on its text alone. So a fixture may
be cut behind such lines: `cases_append` says that both parts have the cases they have by
themselves, those of the second as many lines further down as the first is long. -/
namespace StyleSnapshot.Fixture

/-! ### Further down -/

/-- The block as it stands `k` lines further down. -/
def TestBlock.down (k : Nat) (b : TestBlock) : TestBlock := { b with startLine := b.startLine + k }

def OpenBlock.down (k : Nat) (b : OpenBlock) : OpenBlock := { b with startLine := b.startLine + k }

/-- The case as it stands `k` lines further down. -/
def TestCase.down (k : Nat) (c : TestCase) : TestCase := { c with line := c.line + k }

theorem readLine_down (k number : Nat) (state : Option OpenBlock) (line : Text) :
    readLine (number + k) (state.map (·.down k)) line =
      ((readLine number state line).1.map (·.down k),
        (readLine number state line).2.map (·.down k)) := by
  cases state with
  | none =>
    simp only [readLine, Option.map_none]
    cases declaredName? (bareLine line) with
    | none => rfl
    | some name =>
      dsimp only
      split <;> rfl
  | some b =>
    simp only [readLine, Option.map_some, OpenBlock.down]
    split <;> rfl

theorem blocksFrom_down (k number : Nat) (state : Option OpenBlock) (ls : List Text) :
    blocksFrom (number + k) (state.map (·.down k)) ls =
      (blocksFrom number state ls).map (·.down k) := by
  induction ls generalizing number state with
  | nil => rfl
  | cons line more ih =>
    simp only [blocksFrom, readLine_down, List.map_append, ← ih, Nat.add_right_comm number k 1]
    cases (readLine number state line).2 <;> rfl

/-- Where a block stands shows in the lines of its cases and in nothing else. -/
theorem TestBlock.cases_down (windows : Windows) (k : Nat) (b : TestBlock) :
    (b.down k).cases windows = (b.cases windows).map (·.down k) := by
  simp only [TestBlock.cases, List.map_map]
  refine List.map_congr_left fun found _ => ?_
  simp only [Function.comp, TestBlock.caseAt, TestBlock.down, TestCase.down,
    Nat.add_right_comm b.startLine k]

/-! ### Behind some lines -/

/-- The block that is open behind the given lines. -/
def openBehind (number : Nat) (state : Option OpenBlock) : List Text → Option OpenBlock
  | [] => state
  | line :: more => openBehind (number + 1) (readLine number state line).1 more

theorem openBehind_append (number : Nat) (state : Option OpenBlock) (ls more : List Text) :
    openBehind number state (ls ++ more) =
      openBehind (number + ls.length) (openBehind number state ls) more := by
  induction ls generalizing number state with
  | nil => rfl
  | cons line ls ih =>
    simp only [List.cons_append, openBehind, ih, List.length_cons, Nat.add_assoc, Nat.add_comm 1]

theorem blocksFrom_append (number : Nat) (state : Option OpenBlock) (ls more : List Text) :
    blocksFrom number state (ls ++ more) = blocksFrom number state ls ++
      blocksFrom (number + ls.length) (openBehind number state ls) more := by
  induction ls generalizing number state with
  | nil => rfl
  | cons line ls ih =>
    simp only [List.cons_append, blocksFrom, openBehind, ih, List.length_cons, Nat.add_assoc,
      Nat.add_comm 1, List.append_assoc]

/-- Whether a block is open behind some lines does not depend on where they stand. -/
theorem openBehind_down (k number : Nat) (state : Option OpenBlock) (ls : List Text) :
    openBehind (number + k) (state.map (·.down k)) ls =
      (openBehind number state ls).map (·.down k) := by
  induction ls generalizing number state with
  | nil => rfl
  | cons line more ih => simp only [openBehind, readLine_down, ← ih, Nat.add_right_comm number k 1]

/-- Every block that a text opens is closed in it. -/
def Idle (t : Text) : Prop := openBehind 1 none (Text.lines t) = none

instance (t : Text) : Decidable (Idle t) :=
  inferInstanceAs (Decidable (openBehind 1 none (Text.lines t) = none))

/-! ### Cutting a fixture -/

section Cut
variable {a : Text}

theorem idle_append (ha : Text.Whole a) (h : Idle a) (b : Text) : Idle (a ++ b) ↔ Idle b := by
  have hdown := openBehind_down (Text.newlines a) 1 none (Text.lines b)
  rw [Option.map_none] at hdown
  rw [Idle, ha.lines_append, openBehind_append, h, ha.length_lines, hdown, Option.map_eq_none_iff]
  rfl

theorem blocks_append (ha : Text.Whole a) (h : Idle a) (b : Text) :
    blocks (a ++ b) = blocks a ++ (blocks b).map (·.down (Text.newlines a)) := by
  have hdown := blocksFrom_down (Text.newlines a) 1 none (Text.lines b)
  rw [Option.map_none] at hdown
  rw [blocks, ha.lines_append, blocksFrom_append, h, ha.length_lines, hdown]
  rfl

/-- **Extraction is local.** Behind whole lines that leave no block open a text has the
cases it has by itself, as many lines further down, and it leaves a block open just when it
does so by itself. -/
theorem cases_append (windows : Windows) (ha : Text.Whole a) (h : Idle a) (b : Text) :
    cases windows (a ++ b) =
      cases windows a ++ (cases windows b).map (·.down (Text.newlines a)) ∧
    (Idle (a ++ b) ↔ Idle b) := by
  refine ⟨?_, idle_append ha h b⟩
  simp only [cases, blocks_append ha h b, List.flatMap_append, List.flatMap_map, List.map_flatMap,
    TestBlock.cases_down]

end Cut

/-- A test of three lines that end in a carriage return, and one of a single line without an
end. -/
theorem cases_append_carriageReturns :
    let a := "test('é', () => \x7b\r\n  expect(await run(['x'])).toEqual('')\r\n\x7d)\r\n".toList
    let b := "it(\"ü\", () => \x7b expect(await run(['y', 'z'])).toBe('') \x7d)".toList
    Text.Whole a ∧ Idle a ∧
      cases {} (a ++ b) = [⟨['é'], 0, 2, [['x']], .empty⟩, ⟨['ü'], 0, 4, [['y'], ['z']], .empty⟩] := by
  intro a b
  have ha : Text.Whole a := Or.inr ⟨a.dropLast, by decide +kernel⟩
  have h : Idle a := by decide +kernel
  refine ⟨ha, h, (cases_append {} ha h b).1.trans ?_⟩
  decide +kernel

end StyleSnapshot.Fixture
