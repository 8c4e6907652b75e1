import StyleSnapshot.Proofs.Fixture.Blocks

/-! The line grammar of a fixture.

`Divides` says how the lines of a fixture divide into test blocks and lines outside them: what the
first line of a block is, and that its last line is the first that closes it. How such lines are
written is known (`declaredName?_eq_some_iff`, `closesItself_iff`, `closesBlock_iff`).

Behind a declaring line the machine is in a state that is a function of the lines read since then
(`openBlock`), and the next line closes the block in the machine just when it does so in the grammar
(`readLine_openBlock`). So the machine finds the blocks of the grammar and no others:
`blocks_eq_iff`. -/
namespace StyleSnapshot.Fixture

/-! ### Blocks and lines -/

/-- A declaring line that is a whole block. -/
def ClosesItself (line : Text) : Prop :=
  braceBalance line ≤ 0 ∧ closesItself (bareLine line) = true

/-- Behind the lines read, from the declaring one on, the line closes their block. -/
def ClosedBy (read : List Text) (line : Text) : Prop :=
  braceBalance (read ++ [line]).flatten ≤ 0 ∧ closesBlock (bareLine line) = true

instance (line : Text) : Decidable (ClosesItself line) :=
  inferInstanceAs (Decidable (_ ∧ _))

instance (read : List Text) (line : Text) : Decidable (ClosedBy read line) :=
  inferInstanceAs (Decidable (_ ∧ _))

/-- The first line of `later` that closes the block of the lines read is its last one. -/
def ClosedFirst (read later : List Text) : Prop :=
  ∀ front line behind, later = front ++ line :: behind → (ClosedBy (read ++ front) line ↔ behind = [])

/-- No line of `later` closes the block of the lines read. -/
def NeverClosed (read later : List Text) : Prop :=
  ∀ front line behind, later = front ++ line :: behind → ¬ ClosedBy (read ++ front) line

/-- The lines of the block of a test: the declaring line alone, if that closes itself, and
otherwise the lines up to the first later one that closes the block. -/
structure IsBlock (name first : Text) (later : List Text) : Prop where
  declares : declaredName? (bareLine first) = some name
  single : later = [] ↔ ClosesItself first
  closed : ClosedFirst [first] later

/-- A test whose block is not closed by any line behind its declaration. -/
structure Unclosed (first : Text) (later : List Text) : Prop where
  declares : (declaredName? (bareLine first)).isSome
  not_single : ¬ ClosesItself first
  never : NeverClosed [first] later

/-- The lines, the first of which has the given number, divide into these blocks and lines outside
them. -/
inductive Divides : Nat → List Text → List TestBlock → Prop
  | nil (number : Nat) : Divides number [] []
  /-- A line outside the blocks declares no test. -/
  | outside {number : Nat} {line : Text} {more : List Text} {bs : List TestBlock} :
      declaredName? (bareLine line) = none → Divides (number + 1) more bs →
      Divides number (line :: more) bs
  | block {number : Nat} {name first : Text} {later rest : List Text} {bs : List TestBlock} :
      IsBlock name first later → Divides (number + (later.length + 1)) rest bs →
      Divides number (first :: later ++ rest) (⟨name, number, (first :: later).flatten⟩ :: bs)
  /-- A test that is not closed takes all the lines from its declaration on, and is dropped. -/
  | unclosed {number : Nat} {first : Text} {later : List Text} :
      Unclosed first later → Divides number (first :: later) []

/-! ### Line by line -/

/-- The cuts of a list at one of its members: at the first, or at one behind it. -/
theorem forall_cuts_cons {p : List α → α → List α → Prop} {a : α} {l : List α} :
    (∀ front x behind, a :: l = front ++ x :: behind → p front x behind) ↔
      p [] a l ∧ ∀ front x behind, l = front ++ x :: behind → p (a :: front) x behind := by
  constructor
  · exact fun h => ⟨h [] a l rfl, fun front x behind he => h (a :: front) x behind (by rw [he]; rfl)⟩
  · rintro ⟨hnil, hcons⟩ (_ | ⟨b, front⟩) x behind he
    · obtain ⟨rfl, rfl⟩ := List.cons.inj he
      exact hnil
    · obtain ⟨rfl, hl⟩ := List.cons.inj he
      exact hcons front x behind hl

theorem neverClosed_cons {read later : List Text} {line : Text} :
    NeverClosed read (line :: later) ↔ ¬ ClosedBy read line ∧ NeverClosed (read ++ [line]) later := by
  simp only [NeverClosed, forall_cuts_cons, List.append_nil, List.append_assoc,
    List.singleton_append]

theorem closedFirst_cons {read later : List Text} {line : Text} :
    ClosedFirst read (line :: later) ↔
      (ClosedBy read line ↔ later = []) ∧ ClosedFirst (read ++ [line]) later := by
  simp only [ClosedFirst, forall_cuts_cons, List.append_nil, List.append_assoc,
    List.singleton_append]

theorem neverClosed_nil (read : List Text) : NeverClosed read [] :=
  fun front line behind he => by simp at he

theorem closedFirst_nil (read : List Text) : ClosedFirst read [] :=
  fun front line behind he => by simp at he

/-! ### The machine inside a block -/

/-- The block that is open behind the lines read. -/
def openBlock (name : Text) (number : Nat) (read : List Text) : OpenBlock :=
  ⟨name, number, read.reverse, braceBalance read.flatten⟩

theorem braceBalance_concat (read : List Text) (line : Text) :
    braceBalance (read ++ [line]).flatten = braceBalance read.flatten + braceBalance line := by
  rw [List.flatten_append, List.flatten_singleton, braceBalance_append]

/-- A line behind the declaring one closes the open block or is read into it. -/
theorem readLine_openBlock (name : Text) (number start : Nat) (read : List Text) (line : Text) :
    readLine number (some (openBlock name start read)) line =
      if ClosedBy read line then (none, some ⟨name, start, (read ++ [line]).flatten⟩)
      else (some (openBlock name start (read ++ [line])), none) := by
  have hdepth : braceBalance read.flatten + braceBalance (bareLine line) =
      braceBalance (read ++ [line]).flatten := by
    rw [braceBalance_bareLine, braceBalance_concat]
  have hlines : line :: read.reverse = (read ++ [line]).reverse := by simp
  simp only [readLine, openBlock, OpenBlock.close, hdepth, hlines, List.reverse_reverse]
  rfl

/-- A block that no line closes is dropped. -/
theorem blocksFrom_unclosed {read later : List Text} (h : NeverClosed read later)
    (name : Text) (number start : Nat) :
    blocksFrom number (some (openBlock name start read)) later = [] := by
  induction later generalizing read number with
  | nil => rfl
  | cons line later ih =>
    obtain ⟨hopen, hrest⟩ := neverClosed_cons.1 h
    rw [blocksFrom, readLine_openBlock, if_neg hopen]
    exact ih hrest (number + 1)

/-- The first line that closes a block completes it. -/
theorem blocksFrom_closed {read later : List Text} (h : ClosedFirst read later) (hne : later ≠ [])
    (name : Text) (number start : Nat) (rest : List Text) :
    blocksFrom number (some (openBlock name start read)) (later ++ rest) =
      ⟨name, start, (read ++ later).flatten⟩ :: blocksFrom (number + later.length) none rest := by
  induction later generalizing read number with
  | nil => exact absurd rfl hne
  | cons line later ih =>
    obtain ⟨hlast, hrest⟩ := closedFirst_cons.1 h
    rw [List.cons_append, blocksFrom, readLine_openBlock]
    rcases eq_or_ne later [] with rfl | hmore
    · rw [if_pos (hlast.2 rfl)]
      rfl
    · rw [if_neg fun hclosed => hmore (hlast.1 hclosed)]
      simp only [Option.toList_none, List.nil_append, ih hrest hmore, List.append_assoc,
        List.singleton_append, List.length_cons, Nat.add_assoc, Nat.add_comm 1]

/-- Lines close an open block, a first one of them, or never do. -/
theorem closed_or_never (read ls : List Text) :
    (∃ later rest, ls = later ++ rest ∧ later ≠ [] ∧ ClosedFirst read later) ∨
      NeverClosed read ls := by
  induction ls generalizing read with
  | nil => exact .inr (neverClosed_nil read)
  | cons line ls ih =>
    by_cases hline : ClosedBy read line
    · exact .inl ⟨[line], ls, rfl, List.cons_ne_nil _ _,
        closedFirst_cons.2 ⟨iff_of_true hline rfl, closedFirst_nil _⟩⟩
    · obtain ⟨later, rest, rfl, hne, hfirst⟩ | hnever := ih (read ++ [line])
      · exact .inl ⟨line :: later, rest, rfl, List.cons_ne_nil _ _,
          closedFirst_cons.2 ⟨iff_of_false hline hne, hfirst⟩⟩
      · exact .inr (neverClosed_cons.2 ⟨hline, hnever⟩)

/-! ### The machine outside the blocks -/

theorem blocksFrom_outside {line : Text} (h : declaredName? (bareLine line) = none) (number : Nat)
    (more : List Text) :
    blocksFrom number none (line :: more) = blocksFrom (number + 1) none more := by
  simp only [blocksFrom, readLine, h, Option.toList_none, List.nil_append]

theorem blocksFrom_closesItself {name line : Text} (h : declaredName? (bareLine line) = some name)
    (hline : ClosesItself line) (number : Nat) (more : List Text) :
    blocksFrom number none (line :: more) =
      ⟨name, number, line⟩ :: blocksFrom (number + 1) none more := by
  rw [ClosesItself, ← braceBalance_bareLine] at hline
  simp only [blocksFrom, readLine, h, hline, and_self, if_true, Option.toList_some,
    List.singleton_append]

theorem blocksFrom_declared {name line : Text} (h : declaredName? (bareLine line) = some name)
    (hline : ¬ ClosesItself line) (number : Nat) (more : List Text) :
    blocksFrom number none (line :: more) =
      blocksFrom (number + 1) (some (openBlock name number [line])) more := by
  have hopen : openBlock name number [line] =
      ⟨name, number, [line], braceBalance (bareLine line)⟩ := by
    rw [braceBalance_bareLine, openBlock, List.flatten_singleton, List.reverse_singleton]
  rw [ClosesItself, ← braceBalance_bareLine] at hline
  simp only [blocksFrom, readLine, h, hline, if_false, hopen, Option.toList_none, List.nil_append]

/-! ### The grammar -/

theorem blocksFrom_block {name first : Text} {later : List Text} (h : IsBlock name first later)
    (number : Nat) (rest : List Text) :
    blocksFrom number none (first :: later ++ rest) =
      ⟨name, number, (first :: later).flatten⟩ ::
        blocksFrom (number + (later.length + 1)) none rest := by
  rcases eq_or_ne later [] with rfl | hne
  · rw [List.cons_append, List.nil_append, List.flatten_singleton]
    exact blocksFrom_closesItself h.declares (h.single.1 rfl) number rest
  · rw [List.cons_append, blocksFrom_declared h.declares (fun hs => hne (h.single.2 hs)),
      blocksFrom_closed h.closed hne, List.singleton_append, Nat.add_assoc, Nat.add_comm 1]

/-- The machine finds the blocks of every division. -/
theorem Divides.blocksFrom_eq {number : Nat} {ls : List Text} {bs : List TestBlock}
    (h : Divides number ls bs) : blocksFrom number none ls = bs := by
  induction h with
  | nil => rfl
  | outside hline _ ih => rw [blocksFrom_outside hline, ih]
  | block hblock _ ih => rw [blocksFrom_block hblock, ih]
  | unclosed h =>
    obtain ⟨name, hname⟩ := Option.isSome_iff_exists.1 h.declares
    rw [blocksFrom_declared hname h.not_single, blocksFrom_unclosed h.never]

/-- What begins with a declaring line begins with a block, or with one that is not closed. -/
theorem block_or_unclosed {name first : Text} (h : declaredName? (bareLine first) = some name)
    (more : List Text) :
    (∃ later rest, more = later ++ rest ∧ IsBlock name first later) ∨ Unclosed first more := by
  by_cases hfirst : ClosesItself first
  · exact .inl ⟨[], more, rfl, h, iff_of_true rfl hfirst, closedFirst_nil _⟩
  · obtain ⟨later, rest, rfl, hne, hclosed⟩ | hnever := closed_or_never [first] more
    · exact .inl ⟨later, rest, rfl, h, iff_of_false hne hfirst, hclosed⟩
    · exact .inr ⟨by rw [h]; rfl, hfirst, hnever⟩

/-- Lines always divide. -/
theorem exists_divides (number : Nat) (ls : List Text) : ∃ bs, Divides number ls bs := by
  match ls with
  | [] => exact ⟨[], .nil number⟩
  | line :: more =>
    cases hname : declaredName? (bareLine line) with
    | none =>
      obtain ⟨bs, h⟩ := exists_divides (number + 1) more
      exact ⟨bs, .outside hname h⟩
    | some name =>
      obtain ⟨later, rest, rfl, hblock⟩ | hunclosed := block_or_unclosed hname more
      · obtain ⟨bs, h⟩ := exists_divides (number + (later.length + 1)) rest
        exact ⟨_, .block hblock h⟩
      · exact ⟨[], .unclosed hunclosed⟩
termination_by ls.length

theorem divides_blocksFrom (number : Nat) (ls : List Text) :
    Divides number ls (blocksFrom number none ls) := by
  obtain ⟨bs, h⟩ := exists_divides number ls
  rwa [h.blocksFrom_eq]

/-- The blocks of a fixture are those its lines divide into, and its lines divide in one way. -/
theorem blocks_eq_iff (source : Text) (bs : List TestBlock) :
    blocks source = bs ↔ Divides 1 (Text.lines source) bs :=
  ⟨fun h => h ▸ divides_blocksFrom 1 (Text.lines source), Divides.blocksFrom_eq⟩

/-- A line that closes more than is open does not end a block unless it begins with `})`, and the
test behind it is not closed. -/
example : blocks "\ntest('a', () => \x7b\r\n\x7d\x7d\r\n \x7d);\r\nit('b', () => \x7b\n it('c', () => \x7b \x7d)".toList =
    [⟨['a'], 2, "test('a', () => \x7b\r\n\x7d\x7d\r\n \x7d);\r\n".toList⟩] := by
  decide +kernel

end StyleSnapshot.Fixture
