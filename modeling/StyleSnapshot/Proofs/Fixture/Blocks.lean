import StyleSnapshot.Proofs.Fixture.Line
import StyleSnapshot.Proofs.Fixture.Rendering

/-! The blocks of a rendered fixture.

The line machine counts braces and looks for a closing line. A declaration leaves one brace
open, and what a test contains never closes it: a snapshot is balanced, so its lines are
read at a depth of at least one, whatever they look like. `blocks_render` concludes that
the blocks are the groups. -/
namespace StyleSnapshot.Fixture

/-! ### Depth, line by line -/

/-- The characters that end a line are no braces. -/
theorem braceBalance_bareLine (line : Text) : braceBalance (bareLine line) = braceBalance line := by
  have hcount : ∀ c, c ≠ '\r' → c ≠ '\n' → (bareLine line).count c = line.count c := by
    intro c h1 h2
    have hsplit := List.takeWhile_append_dropWhile (p := fun c => decide (c = '\r') || decide (c = '\n'))
      (l := line.reverse)
    have hzero : (line.reverse.takeWhile fun c => decide (c = '\r') || decide (c = '\n')).count c = 0 :=
      List.count_eq_zero.2 fun hmem => by simpa [h1, h2] using List.mem_takeWhile_imp hmem
    have := congrArg (List.count c) hsplit
    rw [List.count_append, hzero, Nat.zero_add, List.count_reverse] at this
    rw [bareLine, Text.dropEndWhile, List.count_reverse, this]
  rw [braceBalance, braceBalance, hcount _ (by decide) (by decide), hcount _ (by decide) (by decide)]

/-- A block stays open behind a line that leaves a brace open. -/
theorem readLine_open {b : OpenBlock} {k m : Nat} {line : Text} (hb : b.depth = k + 1)
    (h : depth? k line = some m) (number : Nat) :
    readLine number (some b) line =
      (some ⟨b.name, b.startLine, line :: b.lines, (m : Int) + 1⟩, none) := by
  have hdepth : b.depth + braceBalance (bareLine line) = (m : Int) + 1 := by
    rw [braceBalance_bareLine, hb, eq_of_depth? h]
    omega
  have hopen : ¬ ((m : Int) + 1 ≤ 0 ∧ closesBlock (bareLine line) = true) := by omega
  simp only [readLine, hdepth, hopen, if_false]

/-- Lines that never close what is open in front of them are read into the block. -/
theorem blocksFrom_open {k m : Nat} {ls : List Text} (h : depth? k ls.flatten = some m)
    {b : OpenBlock} (hb : b.depth = k + 1) (number : Nat) (more : List Text) :
    blocksFrom number (some b) (ls ++ more) =
      blocksFrom (number + ls.length)
        (some ⟨b.name, b.startLine, ls.reverse ++ b.lines, (m : Int) + 1⟩) more := by
  induction ls generalizing k b number with
  | nil =>
    obtain rfl := Option.some.inj h
    rw [← hb]
    rfl
  | cons line ls ih =>
    rw [List.flatten_cons, depth?_append] at h
    obtain ⟨k', hline, hrest⟩ := Option.bind_eq_some_iff.1 h
    rw [List.cons_append, blocksFrom, readLine_open hb hline]
    have hih := ih hrest (b := ⟨b.name, b.startLine, line :: b.lines, (k' : Int) + 1⟩) rfl (number + 1)
    simp only [Option.toList_none, List.nil_append, hih, List.length_cons, List.reverse_cons,
      List.append_assoc, List.cons_append, Nat.add_assoc, Nat.add_comm 1]

/-! ### Groups -/

namespace Rendering

theorem bareLine_concat {t : Text} {c : Char} (h : c ≠ '\r' ∧ c ≠ '\n') :
    bareLine (t ++ [c] ++ ['\n']) = t ++ [c] := by
  simp [bareLine, Text.dropEndWhile, h]

/-- A group is declared as a test with its name. -/
theorem declaration_header (g : Group) : Declaration g.name g.header := by
  have hheader : g.header = [] ++ ("test".toList ++ ([].flatten ++
      '(' :: ([] ++ '\'' :: (g.name ++ '\'' :: ([] ++ ',' :: " async () => \x7b".toList))))) := by
    rw [Group.header, List.append_assoc]
    rfl
  rw [hheader]
  have hname : '\'' ∉ g.name := fun hmem => (g.name_plain '\'' hmem).1 rfl
  have hblank : ∀ c ∈ ([] : Text), isBlank c = true := List.forall_mem_nil _
  exact .mk hblank (by decide) (List.forall_mem_nil _) hblank (.inl rfl) hname hblank (by decide)

theorem declaredName?_header (g : Group) : declaredName? g.header = some g.name :=
  declaredName?_eq_some_iff.2 (declaration_header g)

theorem bareLine_header (g : Group) : bareLine (g.header ++ ['\n']) = g.header := by
  have hopening : bodyOpening = "', async () => ".toList ++ ['\x7b'] := rfl
  rw [Group.header, hopening, ← List.append_assoc]
  exact bareLine_concat (by decide)

/-- The first line of a group opens a block. -/
theorem readLine_header (g : Group) (number : Nat) : readLine number none (g.header ++ ['\n']) =
    (some ⟨g.name, number, [g.header ++ ['\n']], 1⟩, none) := by
  have hbalance : braceBalance g.header = 1 := by
    have := eq_of_depth? (depth?_header g)
    omega
  have hopen : ¬ ((1 : Int) ≤ 0 ∧ closesItself g.header = true) := by omega
  simp only [readLine, bareLine_header, declaredName?_header, hbalance, hopen, if_false]

/-- Its last line closes it. -/
theorem readLine_footer {b : OpenBlock} (hb : b.depth = 1) (number : Nat) :
    readLine number (some b) (footer ++ ['\n']) =
      (none, some ⟨b.name, b.startLine, b.lines.reverse.flatten ++ (footer ++ ['\n'])⟩) := by
  have hclose : (1 : Int) + braceBalance (bareLine (footer ++ ['\n'])) ≤ 0 ∧
      closesBlock (bareLine (footer ++ ['\n'])) = true := by decide
  simp only [readLine, hb, hclose, and_self, if_true, OpenBlock.close, List.reverse_cons,
    List.flatten_append, List.flatten_singleton]

theorem blocksFrom_text (g : Group) (number : Nat) (rest : Text) :
    blocksFrom number none (Text.lines (g.text ++ rest)) =
      ⟨g.name, number, g.text⟩ ::
        blocksFrom (number + Text.newlines g.text) none (Text.lines rest) := by
  have hlines : Text.lines (g.text ++ rest) =
      (g.header ++ ['\n']) :: (Text.lines g.body ++ (footer ++ ['\n']) :: Text.lines rest) := by
    have htext : g.text ++ rest = g.header ++ '\n' :: (g.body ++ (footer ++ '\n' :: rest)) := by
      simp [Group.text]
    have hfooter : Text.lines (footer ++ ['\n']) = [footer ++ ['\n']] := rfl
    rw [htext, Text.lines_append, Text.lines_line (header_line g), (whole_body g).lines_append,
      Text.lines_append, hfooter]
    rfl
  have hbody : depth? 0 (Text.lines g.body).flatten = some 0 := by
    rw [Text.flatten_lines]
    exact balanced_body g
  have hnumber : number + 1 + Text.newlines g.body + 1 = number + Text.newlines g.text := by
    rw [newlines_text]
    omega
  have htext : ((Text.lines g.body).reverse ++ [g.header ++ ['\n']]).reverse.flatten ++
      (footer ++ ['\n']) = g.text := by
    simp [Group.text, Text.flatten_lines]
  rw [hlines, blocksFrom, readLine_header]
  simp only [Option.toList_none, List.nil_append]
  rw [blocksFrom_open hbody rfl, blocksFrom, readLine_footer rfl]
  simp only [Option.toList_some, List.singleton_append, htext, (whole_body g).length_lines, hnumber]

/-- The blocks of groups that stand one after the other from the given line on. -/
def blocksOf (number : Nat) : List Group → List TestBlock
  | [] => []
  | g :: more => ⟨g.name, number, g.text⟩ :: blocksOf (number + Text.newlines g.text) more

theorem blocksFrom_render (groups : List Group) (number : Nat) :
    blocksFrom number none (Text.lines (render groups)) = blocksOf number groups := by
  induction groups generalizing number with
  | nil => rfl
  | cons g more ih =>
    rw [render, List.flatMap_cons, ← render, blocksFrom_text, ih]
    rfl

theorem blocks_render (groups : List Group) : blocks (render groups) = blocksOf 1 groups :=
  blocksFrom_render groups 1

end Rendering

end StyleSnapshot.Fixture
