import StyleSnapshot.Proofs.Stylesheet.Blocks

/-! Statement at-rules among flat rules.

A prelude is all the text up to the next brace, so a reader that meets a statement such as
`@import "x";` takes it for the beginning of a prelude. `parse_sheet` says what comes of
that for every mix of flat rules and statements: a run of statements and the flat rule
behind it are kept as one opaque text, every other rule is read as if the statements were
not there, and statements behind the last rule leave no trace. -/
namespace StyleSnapshot.Stylesheet

/-! ### Preludes -/

/-- A block with a conditional prelude is kept as text. -/
theorem ofBlock_of_at {prelude : Text} (hat : prelude.head? = some '@') (h : '\x7d' ∉ prelude)
    (body : Text) : Piece.ofBlock prelude body =
      .unparsed (Text.collapse (prelude ++ '\x7b' :: body ++ ['\x7d'])) := by
  have hselector : (selectorOf prelude).head? = some '@' := by
    rw [selectorOf_of_not_mem h]
    exact Text.head?_trim (by decide) hat
  simp only [Piece.ofBlock, hselector, true_or, if_true]

/-- A flat block without an at-sign in front is not kept as text. -/
theorem unparsed?_ofBlock {prelude body : Text} (hat : '@' ∉ prelude) (hbody : '\x7b' ∉ body) :
    (Piece.ofBlock prelude body).unparsed? = none := by
  have hselector : (selectorOf prelude).head? ≠ some '@' := fun h =>
    hat (mem_of_mem_selectorOf (List.mem_of_head? h))
  simp only [Piece.ofBlock, hselector, hbody, or_self, if_false]
  split <;> rfl

/-! ### Items -/

/-- A flat rule as it is written. A comment that the selector begins with is closed there. -/
structure FlatRule where
  /-- Blanks and comments in front. -/
  lead : Text
  selector : Text
  body : Text
  trivia : Trivia lead
  plain : Plain selector
  selector_flat : ∀ c ∈ lead ++ selector, c ≠ '@' ∧ c ≠ '\x7b' ∧ c ≠ '\x7d'
  body_flat : ∀ c ∈ body, c ≠ '\x7b' ∧ c ≠ '\x7d'

/-- A statement at-rule up to its semicolon. -/
structure Statement where
  prelude : Text
  head : prelude.head? = some '@'
  flat : ∀ c ∈ prelude, c ≠ '\x7b' ∧ c ≠ '\x7d' ∧ c ≠ ';'

inductive Item where
  | blanks (w : Text) (h : ∀ c ∈ w, isBlank c = true)
  | rule (r : FlatRule)
  | statement (s : Statement)

def FlatRule.text (r : FlatRule) : Text := r.lead ++ r.selector ++ '\x7b' :: r.body ++ ['\x7d']

def Statement.text (s : Statement) : Text := s.prelude ++ [';']

def Item.text : Item → Text
  | .blanks w _ => w
  | .rule r => r.text
  | .statement s => s.text

/-- The stylesheet that some items make. -/
def sheet (items : List Item) : Text := items.flatMap Item.text

/-- The items without the statements, and for each run of statements without the flat rule
behind it. The flag says whether a statement stands in front of the items. -/
def surviving : Bool → List Item → List Item
  | _, [] => []
  | inRun, .blanks w h :: rest => .blanks w h :: surviving inRun rest
  | _, .statement _ :: rest => surviving true rest
  | false, .rule r :: rest => .rule r :: surviving false rest
  | true, .rule _ :: rest => surviving false rest

/-- What is kept as text: each run of statements together with the flat rule behind it.
`run` is the part of such a run that stands in front of the items. -/
def swallowed : Option Text → List Item → List Text
  | _, [] => []
  | run, .statement s :: rest => swallowed (some (run.getD [] ++ s.text)) rest
  | none, .blanks _ _ :: rest => swallowed none rest
  | none, .rule _ :: rest => swallowed none rest
  | some run, .blanks w _ :: rest => swallowed (some (run ++ w)) rest
  | some run, .rule r :: rest => Text.collapse (run ++ r.text) :: swallowed none rest

theorem sheet_cons (i : Item) (items : List Item) : sheet (i :: items) = i.text ++ sheet items :=
  List.flatMap_cons

/-! ### Reading item by item -/

/-- A statement stands in front, and no brace has come since. -/
structure InRun (run : Text) : Prop where
  head : run.head? = some '@'
  flat : ∀ c ∈ run, c ≠ '\x7b' ∧ c ≠ '\x7d'

theorem InRun.append {run t : Text} (h : InRun run) (ht : ∀ c ∈ t, c ≠ '\x7b' ∧ c ≠ '\x7d') :
    InRun (run ++ t) where
  head := by rw [List.head?_append, h.head]; rfl
  flat c hc := (List.mem_append.1 hc).elim (h.flat c) (ht c)

theorem flat_of_blanks {w : Text} (h : ∀ c ∈ w, isBlank c = true) :
    ∀ c ∈ w, c ≠ '\x7b' ∧ c ≠ '\x7d' := by
  intro c hc
  constructor <;> (rintro rfl; exact absurd (h _ hc) (by decide))

theorem Statement.text_flat (s : Statement) : ∀ c ∈ s.text, c ≠ '\x7b' ∧ c ≠ '\x7d' := by
  intro c hc
  rcases List.mem_append.1 hc with hc | hc
  · exact ⟨(s.flat c hc).1, (s.flat c hc).2.1⟩
  · obtain rfl := List.mem_singleton.1 hc
    decide

theorem Statement.inRun (s : Statement) : InRun s.text where
  head := by rw [Statement.text, List.head?_append, s.head]; rfl
  flat := s.text_flat

theorem Statement.inRun_append (s : Statement) {run : Option Text} (h : ∀ t ∈ run, InRun t) :
    InRun (run.getD [] ++ s.text) := by
  cases run with
  | none => exact s.inRun
  | some run => exact (h run rfl).append s.text_flat

namespace FlatRule
variable (r : FlatRule)

theorem balanced : Balanced r.body :=
  depth?_of_not_mem (fun h => (r.body_flat _ h).1 rfl) (fun h => (r.body_flat _ h).2 rfl) 0

theorem not_mem {c : Char} (h : c = '@' ∨ c = '\x7b' ∨ c = '\x7d') : c ∉ r.lead ++ r.selector := by
  intro hc
  have := r.selector_flat c hc
  rcases h with h | h | h
  · exact this.1 h
  · exact this.2.1 h
  · exact this.2.2 h

def block : Block where
  lead := r.lead
  prelude := r.selector
  body := r.body
  trivia := r.trivia
  plain := r.plain
  no_brace h := r.not_mem (by decide) (List.mem_append_right _ h)
  balanced := r.balanced

end FlatRule

theorem pieces_rule (r : FlatRule) (t : Text) :
    pieces (r.text ++ t) = .ofBlock r.selector r.body :: pieces t :=
  pieces_block r.block t

theorem InRun.plain {run : Text} (h : InRun run) (t : Text) : Plain (run ++ t) := by
  obtain ⟨rest, rfl⟩ := List.head?_eq_some_iff.1 h.head
  refine ⟨fun c hc => ?_, by simp [commentOpen, Text.after?]⟩
  obtain rfl := Option.some.inj hc
  decide

/-- A flat rule behind a run of statements is part of the same block as they. -/
theorem pieces_run {run : Text} (h : InRun run) (r : FlatRule) (t : Text) :
    pieces (run ++ (r.text ++ t)) = .unparsed (Text.collapse (run ++ r.text)) :: pieces t := by
  have hflat : ∀ c, c = '\x7b' ∨ c = '\x7d' → c ∉ run ++ (r.lead ++ r.selector) := by
    intro c hc hmem
    rcases List.mem_append.1 hmem with hmem | hmem
    · exact hc.elim (h.flat c hmem).1 (h.flat c hmem).2
    · exact r.not_mem (Or.inr hc) hmem
  have hnext := nextPiece?_of_trivia .nil (h.plain (r.lead ++ r.selector))
    (hflat _ (Or.inl rfl)) r.balanced t
  have hhead : (run ++ (r.lead ++ r.selector)).head? = some '@' := by
    rw [List.head?_append, h.head]
    rfl
  rw [ofBlock_of_at hhead (hflat _ (Or.inr rfl))] at hnext
  simpa [FlatRule.text] using pieces_of_some hnext

/-- Nothing is read before the first brace. -/
theorem pieces_inRun {run : Text} (h : InRun run) : pieces run = [] := by
  have hskip : skipTrivia run = run := skipTrivia_of_plain (by simpa using h.plain [])
  refine pieces_of_none (nextPiece?_of_no_brace ?_)
  rw [hskip]
  exact fun hmem => (h.flat _ hmem).1 rfl

/-- What is read of some items, `run` being the part of a run of statements in front. -/
theorem read_sheet (items : List Item) (run : Option Text) (hrun : ∀ t ∈ run, InRun t) :
    ruleBlocks (run.getD [] ++ sheet items) = ruleBlocks (sheet (surviving run.isSome items)) ∧
      (pieces (run.getD [] ++ sheet items)).filterMap Piece.unparsed? = swallowed run items := by
  induction items generalizing run with
  | nil =>
    cases run with
    | none => simp [sheet, swallowed, surviving, pieces_nil]
    | some run =>
      have hnone := pieces_inRun (hrun run rfl)
      simp [sheet, swallowed, surviving, ruleBlocks, hnone, pieces_nil]
  | cons i items ih =>
    rw [sheet_cons]
    cases i with
    | blanks w h =>
      cases run with
      | none =>
        have hih := ih none (by simp)
        simp only [Option.getD_none, List.nil_append, ruleBlocks, Item.text, surviving, sheet_cons,
          swallowed, pieces_blanks h] at hih ⊢
        exact hih
      | some run =>
        have hih := ih (some (run ++ w)) (by simpa using (hrun run rfl).append (flat_of_blanks h))
        simp only [Option.getD_some, List.append_assoc, ruleBlocks, Item.text, surviving, sheet_cons,
          swallowed, pieces_blanks h, Option.isSome_some] at hih ⊢
        exact hih
    | statement s =>
      have hih := ih (some (run.getD [] ++ s.text)) (by simpa using s.inRun_append hrun)
      simp only [Option.getD_some, List.append_assoc, Item.text, surviving, swallowed,
        Option.isSome_some] at hih ⊢
      exact hih
    | rule r =>
      have hih := ih none (by simp)
      cases run with
      | none =>
        have hflat : (Piece.ofBlock r.selector r.body).unparsed? = none :=
          unparsed?_ofBlock (fun h => r.not_mem (Or.inl rfl) (List.mem_append_right _ h))
            fun h => (r.body_flat _ h).1 rfl
        simp only [Option.getD_none, List.nil_append, ruleBlocks, Item.text, surviving, sheet_cons,
          swallowed, pieces_rule, List.filterMap_cons, hflat, Option.isSome_none] at hih ⊢
        exact ⟨by rw [hih.1], hih.2⟩
      | some run =>
        simp only [Option.getD_some, Option.getD_none, List.nil_append, ruleBlocks, Item.text,
          surviving, swallowed, pieces_run (hrun run rfl), List.filterMap_cons, Piece.rule?,
          Piece.unparsed?, Option.isSome_some, Option.isSome_none] at hih ⊢
        exact ⟨hih.1, by rw [hih.2]⟩

/-- Reading flat rules and statements gives the rules of what survives. -/
theorem parse_sheet (policy : DuplicatePolicy) (items : List Item) :
    (parse policy (sheet items)).rules = (parse policy (sheet (surviving false items))).rules ∧
      (parse policy (sheet items)).unparsed = swallowed none items := by
  obtain ⟨hrules, hunparsed⟩ := read_sheet items none (by simp)
  rw [Option.getD_none, List.nil_append] at hrules hunparsed
  exact ⟨by rw [rules_parse, rules_parse, hrules]; rfl, by rw [unparsed_parse, hunparsed]⟩

/-- Statements cannot just be left out: one takes the flat rule behind it along, and one
behind a comment that a selector leaves open can end that comment. -/
theorem rules_depend_on_statements :
    (parse .merge "@import x; .a \x7b color: red \x7d".toList).rules = [] ∧
      (parse .merge " .a \x7b color: red \x7d".toList).rules =
        [⟨".a".toList, [⟨"color".toList, "red".toList⟩]⟩] ∧
      (parse .merge "/* \x7b\x7d @import \"*/\"; .a \x7b color: red \x7d".toList).rules =
        [⟨"\"; .a".toList, [⟨"color".toList, "red".toList⟩]⟩] ∧
      (parse .merge "/* \x7b\x7d  .a \x7b color: red \x7d".toList).rules = [] := by
  refine ⟨?_, ?_, ?_, ?_⟩ <;> decide +kernel

end StyleSnapshot.Stylesheet
