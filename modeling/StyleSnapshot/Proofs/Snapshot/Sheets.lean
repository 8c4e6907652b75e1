import StyleSnapshot.Proofs.Snapshot.Spans

/-! Stylesheets of blocks that begin on lines of their own.

An entry of a sheet is an ordinary rule or a reference block, with its indentation and the
blanks behind it. Dropping a reference block takes the line break and the indentation of the
next entry with it, but not the indentation in front of an at-rule. So what follows an
indented at-rule no longer begins a line, and a root block there is not recognized
(`stripReferences_root_behind_indent`). Where no root block stands in a run of reference
blocks that an indented at-rule begins (`RootsKeepLine`), `stripReferences_sheet` says what
is left: the rules, and no keyword. -/
namespace StyleSnapshot.Snapshot

/-! ### Text in which no keyword begins -/

theorem atLineStart_newline : atLineStart (some '\n') = true := rfl

/-- The beginning of a line is where most keywords are found. -/
theorem keyword?_of_line {t : Text} (h : keyword? (some '\n') t = none) (before : Option Char) :
    keyword? before t = none := by
  refine keyword?_eq_none_iff.2 fun keyword opening rest _ hwritten heq => ?_
  exact keyword?_eq_none_iff.1 h keyword opening rest (fun _ => atLineStart_newline) hwritten heq

theorem afterRoot?_of_line {t : Text} (h : keyword? (some '\n') t = none) :
    afterRoot? (some '\n') t = none := by
  cases hroot : afterRoot? (some '\n') t with
  | none => rfl
  | some rest =>
    obtain ⟨hline, opening, hwritten, heq, hend⟩ := afterRoot?_eq_some_iff.1 hroot
    have := keyword?_eq_none_iff.1 h .root opening rest (fun _ => hline) hwritten heq
    exact absurd (this.symm.trans hend) (by decide)

theorem afterRoot?_of_clear {t : Text} (h : Text.Clear keyword? (some '\n') t []) :
    afterRoot? (some '\n') t = none := by
  cases t with
  | nil => rfl
  | cons c t =>
    have hfront := h.1
    rw [List.append_nil] at hfront
    exact afterRoot?_of_line hfront

/-- Only a root selector may begin with blanks, and these are its indentation. -/
theorem keyword?_of_blanks {w t : Text} (hne : w ≠ []) (hw : ∀ c ∈ w, isAsciiBlank c = true)
    (h : afterRoot? (some '\n') t = none) (before : Option Char) :
    keyword? before (w ++ t) = none := by
  obtain ⟨c, w, rfl⟩ := List.exists_cons_of_ne_nil hne
  have hat (x : Text) (heq : c :: (w ++ t) = '@' :: x) : False := by
    obtain rfl := (List.cons.inj heq).1
    exact absurd (hw '@' List.mem_cons_self) (by decide)
  have hroot {x rest : Text} (hx : Indentation x) (ht : t = x ++ ":root".toList ++ rest) :
      atWordEnd rest = false := by
    rw [← Bool.not_eq_true]
    intro hend
    have hsome := afterRoot?_eq_some_iff.2 ⟨atLineStart_newline, _, .root hx, ht, hend⟩
    exact Option.some_ne_none _ (hsome.symm.trans h)
  refine keyword?_eq_none_iff.2 fun keyword opening rest _ hwritten heq => ?_
  cases hwritten with
  | layer => exact (hat _ heq).elim
  | property => exact (hat _ heq).elim
  | supports => exact (hat _ heq).elim
  | @root indent hindent =>
    rw [List.append_assoc] at heq
    obtain ⟨x, rfl, ht⟩ | ⟨x, hx, ht⟩ := List.append_eq_append_iff.1 heq
    · have hx : Indentation x := fun d hd => hindent d (List.mem_append_right _ hd)
      exact hroot hx (by rw [ht, List.append_assoc])
    · cases x with
      | nil =>
        have hx : Indentation [] := nofun
        exact hroot hx ht.symm
      | cons d x =>
        obtain rfl : ':' = d := (List.cons.inj ht).1
        exact absurd (hw ':' (hx ▸ List.mem_append_right _ List.mem_cons_self)) (by decide)

theorem clear_blanks {w t : Text} (hw : ∀ c ∈ w, isAsciiBlank c = true)
    (h : afterRoot? (some '\n') t = none) (before : Option Char) :
    Text.Clear keyword? before w t := by
  induction w generalizing before with
  | nil => trivial
  | cons c w ih =>
    exact ⟨keyword?_of_blanks (List.cons_ne_nil c w) hw h before,
      ih (fun d hd => hw d (List.mem_cons_of_mem c hd)) _⟩

/-- Blanks that end a line hold no keyword, whatever the next line begins with. -/
theorem clear_blank_line {w : Text} (hw : ∀ c ∈ w, isAsciiBlank c = true) (before : Option Char)
    (t : Text) : Text.Clear keyword? before (w ++ ['\n']) t := by
  refine Text.clear_append.2 ⟨clear_blanks hw rfl before, ?_, trivial⟩
  refine keyword?_eq_none_iff.2 fun keyword opening rest _ hwritten heq => ?_
  cases hwritten with
  | layer => exact absurd (List.cons.inj heq).1 (by decide)
  | property => exact absurd (List.cons.inj heq).1 (by decide)
  | supports => exact absurd (List.cons.inj heq).1 (by decide)
  | @root indent hindent =>
    cases indent with
    | nil => exact absurd (List.cons.inj heq).1 (by decide)
    | cons c indent =>
      obtain rfl := (List.cons.inj heq).1
      exact absurd (hindent '\n' List.mem_cons_self) (by decide)

/-- Text that ends in a brace has the keywords it has by itself. -/
theorem clear_close {u : Text} {before : Option Char}
    (h : Text.Clear keyword? before (u ++ ['\x7d']) []) (t : Text) :
    Text.Clear keyword? before (u ++ ['\x7d']) t := by
  have hguard {before : Option Char} {u : Text} (h : keyword? before (u ++ ['\x7d']) = none) :
      keyword? before (u ++ '\x7d' :: t) = none := by
    rw [keyword?_guard (Or.inr rfl), Option.map_eq_none_iff] at h ⊢
    exact h
  induction u generalizing before with
  | nil => exact ⟨hguard (u := []) h.1, trivial⟩
  | cons c u ih =>
    refine ⟨?_, ih h.2⟩
    have hfront := h.1
    rw [List.append_nil] at hfront
    simpa using hguard (u := c :: u) hfront

theorem clear_of_line {t rest : Text} (h : Text.Clear keyword? (some '\n') t rest)
    (before : Option Char) : Text.Clear keyword? before t rest := by
  cases t with
  | nil => trivial
  | cons c t => exact ⟨keyword?_of_line h.1 before, h.2⟩

/-! ### Sheets -/

/-- A rule in which no keyword begins, even if the rule begins a line. -/
structure OrdinaryRule where
  selector : Text
  body : Text
  no_brace : '\x7b' ∉ selector
  balanced : Balanced body
  no_keyword : Text.Clear keyword? (some '\n') (selector ++ '\x7b' :: body ++ ['\x7d']) []

def OrdinaryRule.text (r : OrdinaryRule) : Text := r.selector ++ '\x7b' :: r.body ++ ['\x7d']

inductive Item where
  | rule (r : OrdinaryRule)
  | reference (b : ReferenceBlock)

namespace Item

def text : Item → Text
  | rule r => r.text
  | reference b => b.text

def isReference : Item → Bool
  | rule _ => false
  | reference _ => true

def isRoot : Item → Bool
  | rule _ => false
  | reference b => b.keyword = .root

end Item

/-- A block with its indentation and the blanks behind it. -/
structure Entry where
  indent : Text
  item : Item
  gap : Text
  indentation : Indentation indent
  flush : item.text.head?.any isAsciiBlank = false
  blank : ∀ c ∈ gap, isAsciiBlank c = true

namespace Entry

def text (e : Entry) : Text := e.indent ++ (e.item.text ++ e.gap)

def textOf (entries : List Entry) : Text := entries.flatMap text

/-- Blank lines may stand above a sheet. -/
def Top (w : Text) : Prop :=
  w = [] ∨ w.getLast? = some '\n' ∧ ∀ c ∈ w, isAsciiBlank c = true

/-- Every block begins a line. -/
def Lined : List Entry → Prop
  | [] | [_] => True
  | e :: f :: more => e.gap.getLast? = some '\n' ∧ Lined (f :: more)

/-- Whether the indentation stays when the block is dropped. -/
def LeavesIndent (e : Entry) : Prop :=
  e.item.isReference = true ∧ e.item.isRoot = false ∧ e.indent ≠ []

/-- The reference blocks at the front of a sheet. -/
def run (entries : List Entry) : List Entry := entries.takeWhile (·.item.isReference)

/-- Where the first block of a run of reference blocks leaves its indentation, there is no root
block in the rest of the run. The flag says whether a reference block stands in front. -/
def RootsKeepLine : Bool → List Entry → Prop
  | _, [] => True
  | inRun, e :: more =>
    (inRun = false → e.LeavesIndent → ∀ r ∈ run more, r.item.isRoot = false) ∧
      RootsKeepLine e.item.isReference more

instance (w : Text) : Decidable (Top w) :=
  have : Decidable (∀ c ∈ w, isAsciiBlank c = true) := List.decidableBAll _ w
  inferInstanceAs (Decidable (w = [] ∨ w.getLast? = some '\n' ∧ ∀ c ∈ w, isAsciiBlank c = true))

instance decidableLined : (entries : List Entry) → Decidable (Lined entries)
  | [] | [_] => .isTrue trivial
  | e :: f :: more =>
    have := decidableLined (f :: more)
    inferInstanceAs (Decidable (e.gap.getLast? = some '\n' ∧ Lined (f :: more)))

instance (e : Entry) : Decidable e.LeavesIndent :=
  inferInstanceAs (Decidable (e.item.isReference = true ∧ e.item.isRoot = false ∧ e.indent ≠ []))

instance decidableRootsKeepLine : (inRun : Bool) → (entries : List Entry) →
    Decidable (RootsKeepLine inRun entries)
  | _, [] => .isTrue trivial
  | inRun, e :: more =>
    have := decidableRootsKeepLine e.item.isReference more
    inferInstanceAs (Decidable
      ((inRun = false → e.LeavesIndent → ∀ r ∈ run more, r.item.isRoot = false) ∧
        RootsKeepLine e.item.isReference more))

/-- What is left of a sheet: the rules with the blanks behind them, and the indentation of
rules and at-rules unless a reference block stands in front. -/
def remainsOf : Bool → List Entry → Text
  | _, [] => []
  | inRun, e :: more =>
    (if inRun || e.item.isRoot then [] else e.indent) ++
      match e.item with
      | .rule r => r.text ++ (e.gap ++ remainsOf false more)
      | .reference _ => remainsOf true more

end Entry

/-! ### What is left -/

theorem OrdinaryRule.clear_text (r : OrdinaryRule) (before : Option Char) (rest : Text) :
    Text.Clear keyword? before r.text rest := clear_of_line (clear_close r.no_keyword rest) before

theorem Item.exists_text (i : Item) : ∃ c x, i.text = c :: x := by
  refine List.exists_cons_of_ne_nil fun hnil => ?_
  have hmem : '\x7b' ∈ i.text := by
    cases i <;> simp [Item.text, OrdinaryRule.text, ReferenceBlock.text]
  rw [hnil] at hmem
  exact List.not_mem_nil hmem

theorem OrdinaryRule.afterRoot?_text (r : OrdinaryRule) (rest : Text) :
    afterRoot? (some '\n') (r.text ++ rest) = none := by
  have hclear := r.clear_text (some '\n') rest
  obtain ⟨c, x, htext⟩ := (Item.rule r).exists_text
  rw [show r.text = c :: x from htext] at hclear ⊢
  exact afterRoot?_of_line hclear.1

theorem Indentation.blank {w : Text} (h : Indentation w) : ∀ c ∈ w, isAsciiBlank c = true := by
  intro c hc
  rcases h c hc with rfl | rfl <;> rfl

/-- A rule and the blanks around it stay. -/
theorem stripReferences_rule (r : OrdinaryRule) {lead gap t : Text} (hlead : Indentation lead)
    (hgap : ∀ c ∈ gap, isAsciiBlank c = true) (hline : t = [] ∨ ∃ w, gap = w ++ ['\n'])
    (before : Option Char) : stripReferences before (lead ++ (r.text ++ (gap ++ t))) =
      lead ++ (r.text ++ (gap ++ stripReferences (some '\n') t)) := by
  have hlead := clear_blanks hlead.blank (r.afterRoot?_text (gap ++ t)) before
  rw [stripReferences_no_keyword hlead, stripReferences_no_keyword (r.clear_text _ _)]
  rcases hline with rfl | ⟨w, rfl⟩
  · rw [stripReferences_no_keyword (clear_blanks hgap rfl _), stripReferences_nil,
      stripReferences_nil]
  · have hw : ∀ c ∈ w, isAsciiBlank c = true := fun c hc => hgap c (List.mem_append_left _ hc)
    rw [stripReferences_no_keyword (clear_blank_line hw _ t), Text.endOf_concat]

theorem Written.indent {w opening : Text} (h : Written .root opening) (hw : Indentation w) :
    Written .root (w ++ opening) := by
  cases h with
  | root hindent =>
    rw [← List.append_assoc]
    refine .root fun c hc => ?_
    rcases List.mem_append.1 hc with hc | hc
    · exact hw c hc
    · exact hindent c hc

/-- The indentation of a root block that begins a line goes with it. -/
theorem stripReferences_root {b : ReferenceBlock} (hroot : b.keyword = .root) {w : Text}
    (hw : Indentation w) {before : Option Char} (hline : atLineStart before = true) (rest : Text) :
    stripReferences before (w ++ (b.text ++ rest)) =
      stripReferences before (rest.dropWhile isAsciiBlank) := by
  have hwritten : Written b.keyword (w ++ b.opening) := by
    have := b.written
    rw [hroot] at this ⊢
    exact this.indent hw
  let indented : ReferenceBlock := ⟨b.keyword, w ++ b.opening, b.prelude, b.body, hwritten,
    b.word_end, b.plain, b.probes, b.balanced⟩
  have htext : w ++ (b.text ++ rest) = indented.text ++ rest := by
    simp [ReferenceBlock.text, indented]
  rw [htext]
  exact stripReferences_of_some
    (afterReference?_eq_some_iff.2 ⟨indented, rest, fun _ => hline, rfl, rfl⟩)

theorem Written.exists_at {keyword : Keyword} {opening : Text} (h : Written keyword opening)
    (hroot : keyword ≠ .root) : ∃ x, opening = '@' :: x := by
  cases h with
  | layer | property | supports => exact ⟨_, rfl⟩
  | root => exact absurd rfl hroot

/-- That of an at-rule stays. -/
theorem stripReferences_atRule {b : ReferenceBlock} (hroot : b.keyword ≠ .root) {w : Text}
    (hw : Indentation w) (before : Option Char) (rest : Text) :
    stripReferences before (w ++ (b.text ++ rest)) =
      w ++ stripReferences (Text.endOf before w) (rest.dropWhile isAsciiBlank) := by
  have hat : afterRoot? (some '\n') (b.text ++ rest) = none := by
    obtain ⟨x, hx⟩ := b.written.exists_at hroot
    rw [ReferenceBlock.text, hx]
    rfl
  rw [stripReferences_no_keyword (clear_blanks hw.blank hat before)]
  rw [stripReferences_of_some (afterReference?_eq_some_iff.2
    ⟨b, rest, fun h => absurd h hroot, rfl, rfl⟩)]

namespace Entry

/-- What the search meets: the blanks behind a reference block are gone. -/
def ahead : Bool → List Entry → Text
  | false, entries => textOf entries
  | true, entries => (textOf entries).dropWhile isAsciiBlank

theorem ahead_cons (inRun : Bool) (e : Entry) (more : List Entry) : ahead inRun (e :: more) =
    (if inRun then [] else e.indent) ++ (e.item.text ++ (e.gap ++ textOf more)) := by
  have htext : textOf (e :: more) = e.indent ++ (e.item.text ++ (e.gap ++ textOf more)) := by
    simp [textOf, text]
  cases inRun with
  | false => exact htext
  | true =>
    obtain ⟨c, x, hx⟩ := e.item.exists_text
    have hc : isAsciiBlank c = false := by simpa [hx] using e.flush
    rw [ahead, htext, List.dropWhile_append_of_pos e.indentation.blank, hx]
    simp [hc]

theorem dropWhile_gap (e : Entry) (more : List Entry) :
    (e.gap ++ textOf more).dropWhile isAsciiBlank = ahead true more :=
  List.dropWhile_append_of_pos e.blank

theorem Lined.tail {e : Entry} {more : List Entry} (h : Lined (e :: more)) : Lined more := by
  cases more with
  | nil => trivial
  | cons f more => exact h.2

theorem Lined.gap {e : Entry} {more : List Entry} (h : Lined (e :: more)) :
    textOf more = [] ∨ ∃ w, e.gap = w ++ ['\n'] := by
  cases more with
  | nil => exact Or.inl rfl
  | cons f more => exact Or.inr (List.getLast?_eq_some_iff.1 h.1)

/-- What must stand in front of entries: the beginning of a line, unless no root block needs
it. -/
def Ready (before : Option Char) : Bool → List Entry → Prop
  | false, _ => atLineStart before = true
  | true, entries => atLineStart before = true ∨ ∀ r ∈ run entries, r.item.isRoot = false

theorem stripReferences_ahead {entries : List Entry} {inRun : Bool} {before : Option Char}
    (hlined : Lined entries) (hroots : RootsKeepLine inRun entries)
    (h : Ready before inRun entries) :
    stripReferences before (ahead inRun entries) = remainsOf inRun entries := by
  induction entries generalizing inRun before with
  | nil => cases inRun <;> exact stripReferences_nil before
  | cons e more ih =>
    obtain ⟨hindent, hmore⟩ := hroots
    have hlead : Indentation (if inRun then [] else e.indent) := by
      cases inRun
      · exact e.indentation
      · exact nofun
    rw [ahead_cons]
    cases hitem : e.item with
    | rule r =>
      rw [hitem] at hmore
      have hrest : stripReferences (some '\n') (textOf more) = remainsOf false more :=
        ih hlined.tail hmore rfl
      rw [Item.text, stripReferences_rule r hlead e.blank hlined.gap, hrest]
      simp [remainsOf, hitem, Item.isRoot]
    | reference b =>
      rw [hitem] at hmore
      change RootsKeepLine true more at hmore
      have hrun : run (e :: more) = e :: run more := List.takeWhile_cons_of_pos (by rw [hitem]; rfl)
      by_cases hroot : b.keyword = .root
      · have hisRoot : e.item.isRoot = true := by rw [hitem]; exact decide_eq_true hroot
        -- A root block that is met begins a line, or the run would hold none.
        have hline : atLineStart before = true := by
          cases inRun with
          | false => exact h
          | true =>
            refine h.resolve_right fun hnone => ?_
            have := hnone e (hrun ▸ List.mem_cons_self)
            exact absurd (this.symm.trans hisRoot) (by decide)
        rw [Item.text, stripReferences_root hroot hlead hline, dropWhile_gap,
          ih hlined.tail hmore (Or.inl hline)]
        rw [hitem] at hisRoot
        simp [remainsOf, hitem, hisRoot]
      · have hisRoot : e.item.isRoot = false := by rw [hitem]; exact decide_eq_false hroot
        have hready : Ready (Text.endOf before (if inRun then [] else e.indent)) true more := by
          cases inRun with
          | true =>
            rcases h with h | h
            · exact Or.inl h
            · exact Or.inr fun r hr => h r (hrun ▸ List.mem_cons_of_mem e hr)
          | false =>
            by_cases hempty : e.indent = []
            · simp only [Bool.false_eq_true, if_false, hempty]
              exact Or.inl h
            · exact Or.inr (hindent rfl ⟨by rw [hitem]; rfl, hisRoot, hempty⟩)
        rw [Item.text, stripReferences_atRule hroot hlead, dropWhile_gap,
          ih hlined.tail hmore hready]
        rw [hitem] at hisRoot
        simp [remainsOf, hitem, hisRoot]

/-- What is left holds no keyword. -/
theorem clear_remainsOf (inRun : Bool) (entries : List Entry) (before : Option Char) :
    Text.Clear keyword? before (remainsOf inRun entries) [] := by
  induction entries generalizing inRun before with
  | nil => trivial
  | cons e more ih =>
    have hlead : ∀ c ∈ (if inRun || e.item.isRoot then [] else e.indent),
        isAsciiBlank c = true := by
      split
      · exact nofun
      · exact e.indentation.blank
    rw [remainsOf]
    cases hitem : e.item with
    | rule r =>
      rw [hitem] at hlead
      have hgap := clear_blanks e.blank (afterRoot?_of_clear (ih false _))
      have hbehind (before : Option Char) :
          Text.Clear keyword? before (e.gap ++ remainsOf false more) [] := by
        refine Text.clear_append.2 ⟨?_, ih false _⟩
        rw [List.append_nil]
        exact hgap before
      refine Text.clear_append.2 ⟨?_, Text.clear_append.2 ⟨r.clear_text _ _, hbehind _⟩⟩
      rw [List.append_nil]
      exact clear_blanks hlead (r.afterRoot?_text _) before
    | reference b =>
      rw [hitem] at hlead
      refine Text.clear_append.2 ⟨?_, ih true _⟩
      rw [List.append_nil]
      exact clear_blanks hlead (afterRoot?_of_clear (ih true _)) before

theorem Top.clear {w : Text} (h : Top w) (t : Text) : Text.Clear keyword? none w t := by
  obtain rfl | ⟨hlast, hblank⟩ := h
  · trivial
  · obtain ⟨w, rfl⟩ := List.getLast?_eq_some_iff.1 hlast
    exact clear_blank_line (fun c hc => hblank c (List.mem_append_left _ hc)) none t

theorem Top.atLineStart_endOf {w : Text} (h : Top w) : atLineStart (Text.endOf none w) = true := by
  obtain rfl | ⟨hlast, -⟩ := h
  · rfl
  · obtain ⟨w, rfl⟩ := List.getLast?_eq_some_iff.1 hlast
    rw [Text.endOf_concat]
    rfl

end Entry

open Entry (textOf remainsOf Top Lined RootsKeepLine) in
/-- **No reference block is left of a sheet**, where root blocks keep their line. The rules
stay as they are, and dropping once more changes nothing. -/
theorem stripReferences_sheet {top : Text} {entries : List Entry} (htop : Top top)
    (hlined : Lined entries) (hroots : RootsKeepLine false entries) :
    stripReferences none (top ++ textOf entries) = top ++ remainsOf false entries ∧
      Text.Clear keyword? none (top ++ remainsOf false entries) [] ∧
      stripReferences none (stripReferences none (top ++ textOf entries)) =
        stripReferences none (top ++ textOf entries) := by
  have hstrip : stripReferences none (top ++ textOf entries) = top ++ remainsOf false entries := by
    rw [stripReferences_no_keyword (htop.clear _)]
    exact congrArg (top ++ ·) (Entry.stripReferences_ahead hlined hroots htop.atLineStart_endOf)
  have hclear : Text.Clear keyword? none (top ++ remainsOf false entries) [] :=
    Text.clear_append.2 ⟨htop.clear _, Entry.clear_remainsOf false entries _⟩
  refine ⟨hstrip, hclear, ?_⟩
  rw [hstrip]
  exact stripReferences_of_no_keyword hclear

/-! ### A sheet and its opposite -/

/-- A rule, a registered property and the variables of the root element. -/
def sampleRule : OrdinaryRule :=
  ⟨".a ".toList, " color: red ".toList, by decide, by decide, by decide +kernel⟩

def sampleProperty : ReferenceBlock :=
  ⟨.property, "@property".toList, " --x ".toList, " inherits: false ".toList, .property,
    by decide, by decide, nofun, by decide⟩

def sampleRoot : ReferenceBlock :=
  ⟨.root, ":root".toList, ", :host ".toList, " --y: 1 ".toList, .root (w := []) nofun, by decide,
    by decide, nofun, by decide⟩

/-- An item on a line of its own. -/
def lineOfItem (indent : Text) (item : Item) (hindent : Indentation indent)
    (hflush : item.text.head?.any isAsciiBlank = false) : Entry :=
  ⟨indent, item, ['\n'], hindent, hflush, List.all_eq_true.1 rfl⟩

open Entry (textOf remainsOf Top Lined RootsKeepLine) in
/-- Reference blocks between rules, some of them indented. -/
theorem stripReferences_sheet_indented :
    let top := "\n".toList
    let entries : List Entry :=
      [lineOfItem "  ".toList (.rule sampleRule) (by decide) (by decide),
        lineOfItem [] (.reference sampleRoot) (by decide) (by decide),
        lineOfItem "\t".toList (.reference sampleProperty) (by decide) (by decide),
        lineOfItem "  ".toList (.rule sampleRule) (by decide) (by decide),
        lineOfItem "  ".toList (.reference sampleProperty) (by decide) (by decide)]
    (Top top ∧ Lined entries ∧ RootsKeepLine false entries) ∧
      stripReferences none (top ++ textOf entries) = top ++ remainsOf false entries ∧
      top ++ remainsOf false entries =
        "\n  .a \x7b color: red \x7d\n.a \x7b color: red \x7d\n  ".toList := by
  intro top entries
  have htop : Top top := by decide
  have hlined : Lined entries := by decide
  have hroots : RootsKeepLine false entries := by decide
  exact ⟨⟨htop, hlined, hroots⟩, (stripReferences_sheet htop hlined hroots).1, by decide⟩

/-! ### Root blocks off their line -/

/-- In the middle of a line only a keyword that begins with `@` is found. -/
theorem keyword?_of_midline {before : Option Char} (h : atLineStart before = false) {c : Char}
    (hc : c ≠ '@') (t : Text) : keyword? before (c :: t) = none := by
  refine keyword?_eq_none_iff.2 fun keyword opening rest hline hwritten heq => ?_
  cases hwritten with
  | layer => exact absurd (List.cons.inj heq).1 hc
  | property => exact absurd (List.cons.inj heq).1 hc
  | supports => exact absurd (List.cons.inj heq).1 hc
  | root => exact absurd ((hline rfl).symm.trans h) (by decide)

theorem clear_root (before : Option Char) (h : atLineStart before = false) (rest : Text) :
    Text.Clear keyword? before ":root".toList rest :=
  ⟨keyword?_of_midline h (by decide) _, keyword?_of_midline rfl (by decide) _,
    keyword?_of_midline rfl (by decide) _, keyword?_of_midline rfl (by decide) _,
    keyword?_of_midline rfl (by decide) _, trivial⟩

theorem Indentation.atLineStart_endOf {w : Text} (h : Indentation w) (hne : w ≠ [])
    (before : Option Char) : atLineStart (Text.endOf before w) = false := by
  have hlast := h _ (List.getLast_mem hne)
  rw [← List.dropLast_append_getLast hne, Text.endOf_concat]
  rcases hlast with hlast | hlast <;> rw [hlast] <;> rfl

/-- A root block behind an indented at-rule is kept, although it stands on a line of its own. -/
theorem stripReferences_root_behind_indent {b r : ReferenceBlock} (hb : b.keyword ≠ .root)
    (hr : r.opening = ":root".toList) {w gap : Text} (hw : Indentation w) (hne : w ≠ [])
    (hgap : ∀ c ∈ gap, isAsciiBlank c = true) (before : Option Char) (rest : Text) :
    stripReferences before (w ++ (b.text ++ (gap ++ (r.text ++ rest)))) =
      w ++ (":root".toList ++
        stripReferences (some 't') (r.prelude ++ '\x7b' :: (r.body ++ '\x7d' :: rest))) := by
  have hroot : r.text ++ rest =
      ":root".toList ++ (r.prelude ++ '\x7b' :: (r.body ++ '\x7d' :: rest)) := by
    simp [ReferenceBlock.text, hr]
  have hdrop : (gap ++ (r.text ++ rest)).dropWhile isAsciiBlank = r.text ++ rest := by
    rw [List.dropWhile_append_of_pos hgap, hroot]
    rfl
  have hclear := clear_root _ (hw.atLineStart_endOf hne before)
    (r.prelude ++ '\x7b' :: (r.body ++ '\x7d' :: rest))
  rw [stripReferences_atRule hb hw, hdrop, hroot, stripReferences_no_keyword hclear]
  rfl

open Entry (textOf Lined) in
/-- The variables of the root element stay at first, and go when blocks are dropped again. -/
theorem root_behind_indented_property :
    let entries : List Entry :=
      [lineOfItem "  ".toList (.reference sampleProperty) (by decide) (by decide),
        lineOfItem [] (.reference sampleRoot) (by decide) (by decide)]
    let kept := "  :root, :host \x7b --y: 1 \x7d\n".toList
    Lined entries ∧ stripReferences none (textOf entries) = kept ∧ stripReferences none kept = [] := by
  intro entries kept
  have hlined : Lined entries := by decide
  exact ⟨hlined, by decide +kernel, by decide +kernel⟩

end StyleSnapshot.Snapshot
