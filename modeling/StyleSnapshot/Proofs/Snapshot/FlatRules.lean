import Mathlib.Data.List.Infix
import StyleSnapshot.Proofs.Snapshot.Sheets
import StyleSnapshot.Proofs.Stylesheet.Statements
import StyleSnapshot.Proofs.Verification.OwnSnapshot

/-! Stylesheets of flat rules.

Of such a sheet only root variables are dropped. A root selector is looked for at the beginning
of every line, and the lines of a selector list are no exception: there the list is cut in two,
and its first part grows into the selector of the rule behind. `RootsLead` says that this does
not happen. Then the rules that begin with a root selector on a line of their own are gone, and
every other rule is read as before (`rules_sanitize_flat`). -/
namespace StyleSnapshot.Snapshot
open Stylesheet

/-! ### Lines that begin with a root selector -/

/-- Whether a line of the text other than the first has the property, read to the end of the
text. -/
def HasLine (p : Text → Prop) (t : Text) : Prop := ∃ line, '\n' :: line <:+ t ∧ p line

instance (p : Text → Prop) [DecidablePred p] (t : Text) : Decidable (HasLine p t) :=
  decidable_of_iff (∃ u ∈ t.tails, u.head? = some '\n' ∧ p u.tail) <| by
    simp only [List.mem_tails, HasLine]
    constructor
    · rintro ⟨u, hu, hhead, hp⟩
      obtain ⟨line, rfl⟩ := List.head?_eq_some_iff.1 hhead
      exact ⟨line, hu, hp⟩
    · rintro ⟨line, hu, hp⟩
      exact ⟨_, hu, rfl, hp⟩

/-- Whether the text up to a brace is, at the beginning of a line, the prelude of a block of
root variables. -/
def OpensRoot (s : Text) : Prop := ∃ indent rest, Indentation indent ∧
  s = indent ++ ":root".toList ++ rest ∧ atWordEnd rest = true ∧ ';' ∉ rest

instance (s : Text) : Decidable (OpensRoot s) :=
  decidable_of_iff ((afterRoot? none s).any (fun rest => !rest.contains ';') = true) <| by
    rw [Option.any_eq_true]
    constructor
    · rintro ⟨rest, hrest, hplain⟩
      obtain ⟨-, opening, hwritten, rfl, hend⟩ := afterRoot?_eq_some_iff.1 hrest
      cases hwritten with
      | root hindent => exact ⟨_, rest, hindent, rfl, hend, by simpa using hplain⟩
    · rintro ⟨indent, rest, hindent, rfl, hend, hplain⟩
      exact ⟨rest, afterRoot?_eq_some_iff.2 ⟨rfl, _, .root hindent, rfl, hend⟩, by simpa using hplain⟩

/-- Without an at-sign no other reference block begins. -/
theorem opensReference_iff_opensRoot {before : Option Char} {s : Text} (hat : '@' ∉ s)
    (hclose : '\x7d' ∉ s) :
    opensReference before s = true ↔ atLineStart before = true ∧ OpensRoot s := by
  constructor
  · intro h
    cases hk : keyword? before s with
    | none => simp [opensReference, hk] at h
    | some found =>
      obtain ⟨keyword, rest⟩ := found
      obtain ⟨hline, opening, hwritten, rfl, hend⟩ := keyword?_eq_some_iff.1 hk
      have hprelude : isPrelude keyword rest = true := by simpa [opensReference, hk] using h
      by_cases hroot : keyword = .root
      · subst hroot
        cases hwritten with
        | root hindent => exact ⟨hline rfl, _, rest, hindent, rfl, hend, (isPrelude_iff.1 hprelude).1⟩
      · obtain ⟨x, rfl⟩ := hwritten.exists_at hroot
        exact absurd List.mem_cons_self hat
  · rintro ⟨hline, indent, rest, hindent, rfl, hend, hplain⟩
    have hk := keyword?_eq_some_iff.2 ⟨fun _ => hline, _, .root hindent, rfl, hend⟩
    have hrest : '\x7d' ∉ rest := fun hmem => hclose (List.mem_append_right _ hmem)
    rw [opensReference, hk]
    exact isPrelude_iff.2 ⟨hplain, hrest, by simp⟩

/-- Blanks in front of a root selector belong to it only if they are its indentation. -/
theorem opensRoot_append_iff {w s : Text} (hw : ∀ c ∈ w, isBlank c = true) :
    OpensRoot (w ++ s) ↔ Indentation w ∧ OpensRoot s := by
  constructor
  · rintro ⟨indent, rest, hindent, heq, hend, hplain⟩
    rw [List.append_assoc] at heq
    obtain ⟨x, rfl, hs⟩ | ⟨x, rfl, hs⟩ := List.append_eq_append_iff.1 heq
    · have hleft : Indentation w := fun c hc => hindent c (List.mem_append_left _ hc)
      have hright : Indentation x := fun c hc => hindent c (List.mem_append_right _ hc)
      exact ⟨hleft, x, rest, hright, by rw [hs, List.append_assoc], hend, hplain⟩
    · cases x with
      | nil =>
        rw [List.append_nil] at hw ⊢
        exact ⟨hindent, [], rest, List.forall_mem_nil _, hs.symm, hend, hplain⟩
      | cons c x =>
        obtain rfl : ':' = c := (List.cons.inj hs).1
        exact absurd (hw ':' (List.mem_append_right _ List.mem_cons_self)) (by decide)
  · rintro ⟨hleft, indent, rest, hindent, rfl, hend, hplain⟩
    refine ⟨w ++ indent, rest, fun c hc => ?_, by simp, hend, hplain⟩
    exact (List.mem_append.1 hc).elim (hleft c) (hindent c)

theorem atLineStart_endOf_iff {before : Option Char} {t : Text} :
    atLineStart (Text.endOf before t) = true ↔
      t = [] ∧ atLineStart before = true ∨ ∃ w, t = w ++ ['\n'] := by
  cases t using List.reverseRecOn with
  | nil => simp [Text.endOf]
  | append_singleton w c => simp [Text.endOf_concat, atLineStart]

theorem not_isAsciiBlank {c : Char} (h : isBlank c = false) : isAsciiBlank c = false := by
  rw [← Bool.not_eq_true]
  intro hascii
  exact absurd ((isBlank_of_isAsciiBlank hascii).symm.trans h) (by decide)

/-! ### Sheets -/

/-- A flat rule with blanks only in front of it. -/
structure SpacedRule extends FlatRule where
  blank : ∀ c ∈ lead, isBlank c = true

namespace SpacedRule

def textOf (rules : List SpacedRule) : Text := rules.flatMap (·.text)

/-- Whether the rule is dropped: it begins a line with a root selector. A `fresh` rule is the
first of the sheet or stands behind one that is dropped; its blanks are gone with that one. -/
def Leads (fresh : Bool) (r : SpacedRule) : Prop :=
  ((fresh = true ∧ ∀ c ∈ r.lead, isAsciiBlank c = true) ∨ HasLine Indentation r.lead) ∧
    OpensRoot r.selector

instance (fresh : Bool) (r : SpacedRule) : Decidable (r.Leads fresh) :=
  have : Decidable (∀ c ∈ r.lead, isAsciiBlank c = true) := List.decidableBAll _ r.lead
  inferInstanceAs (Decidable (((fresh = true ∧ ∀ c ∈ r.lead, isAsciiBlank c = true) ∨
    HasLine Indentation r.lead) ∧ OpensRoot r.selector))

/-- In a selector list that stays, no line but the first begins with a root selector. -/
def RootsLead : Bool → List SpacedRule → Prop
  | _, [] => True
  | fresh, r :: more =>
    (r.Leads fresh ∨ ¬ HasLine OpensRoot r.selector) ∧ RootsLead (decide (r.Leads fresh)) more

instance decidableRootsLead : (fresh : Bool) → (rules : List SpacedRule) →
    Decidable (RootsLead fresh rules)
  | _, [] => .isTrue trivial
  | fresh, r :: more =>
    have := decidableRootsLead (decide (r.Leads fresh)) more
    inferInstanceAs (Decidable
      ((r.Leads fresh ∨ ¬ HasLine OpensRoot r.selector) ∧ RootsLead (decide (r.Leads fresh)) more))

/-- The rules that are not dropped. -/
def kept : Bool → List SpacedRule → List SpacedRule
  | _, [] => []
  | fresh, r :: more => if r.Leads fresh then kept true more else r :: kept false more

/-- The blanks in front of the rule as the search meets them: behind a rule that is dropped they
are gone. -/
def leadAhead (fresh : Bool) (r : SpacedRule) : Text :=
  if fresh then r.lead.dropWhile isAsciiBlank else r.lead

theorem leadAhead_suffix (fresh : Bool) (r : SpacedRule) : r.leadAhead fresh <:+ r.lead := by
  rw [leadAhead]
  split
  · exact List.dropWhile_suffix _
  · exact List.suffix_refl _

/-- The rule as the search meets it. -/
def ahead (fresh : Bool) (r : SpacedRule) : SpacedRule :=
  have hblank : ∀ c ∈ r.leadAhead fresh, isBlank c = true := fun c hc =>
    r.blank c ((r.leadAhead_suffix fresh).mem hc)
  { r with
    lead := r.leadAhead fresh
    trivia := trivia_of_blanks hblank
    selector_flat := fun c hc => r.selector_flat c <| (List.mem_append.1 hc).elim
      (fun hc => List.mem_append_left _ ((r.leadAhead_suffix fresh).mem hc)) (List.mem_append_right _)
    blank := hblank }

theorem dropWhile_text (r : SpacedRule) (rest : Text) :
    (r.text ++ rest).dropWhile isAsciiBlank = (r.ahead true).text ++ rest := by
  have hselector : (r.selector ++ '\x7b' :: (r.body ++ '\x7d' :: rest)).dropWhile isAsciiBlank =
      r.selector ++ '\x7b' :: (r.body ++ '\x7d' :: rest) := by
    cases hs : r.selector with
    | nil => rfl
    | cons c s =>
      have hc : isBlank c = false := r.plain.head c (by rw [hs]; rfl)
      simp [not_isAsciiBlank hc]
  have htext (gap : Text) : gap ++ (r.selector ++ '\x7b' :: (r.body ++ '\x7d' :: rest)) =
      gap ++ r.selector ++ '\x7b' :: r.body ++ ['\x7d'] ++ rest := by simp
  calc (r.text ++ rest).dropWhile isAsciiBlank
      = (r.lead ++ (r.selector ++ '\x7b' :: (r.body ++ '\x7d' :: rest))).dropWhile isAsciiBlank := by
        rw [htext]
        rfl
    _ = r.lead.dropWhile isAsciiBlank ++ (r.selector ++ '\x7b' :: (r.body ++ '\x7d' :: rest)) := by
        rw [List.dropWhile_append]
        split
        · next hnil =>
          rw [hselector, List.isEmpty_iff.1 hnil, List.nil_append]
        · rfl
    _ = (r.ahead true).text ++ rest := htext _

/-- A rule is dropped if the search meets its root selector at the beginning of a line. -/
theorem leads_iff {r : SpacedRule} {fresh : Bool} {before : Option Char}
    (hfresh : atLineStart before = fresh) : r.Leads fresh ↔ OpensRoot r.selector ∧
      ∃ front indent, (r.ahead fresh).lead = front ++ indent ∧ Indentation indent ∧
        atLineStart (Text.endOf before front) = true := by
  constructor
  · rintro ⟨hplace, hroot⟩
    refine ⟨hroot, ?_⟩
    have hline (w : Text) : atLineStart (Text.endOf before (w ++ ['\n'])) = true := by
      rw [Text.endOf_concat]
      rfl
    rcases hplace with ⟨rfl, hascii⟩ | ⟨indent, ⟨w, hw⟩, hindent⟩
    · refine ⟨[], [], ?_, List.forall_mem_nil _, hfresh⟩
      simpa [ahead, leadAhead] using hascii
    · cases fresh with
      | false => exact ⟨w ++ ['\n'], indent, by simp [ahead, leadAhead, hw], hindent, hline w⟩
      | true =>
        have hgap : (r.ahead true).lead = (w ++ '\n' :: indent).dropWhile isAsciiBlank := by
          rw [hw]
          rfl
        rw [hgap, List.dropWhile_append]
        split
        · refine ⟨[], [], ?_, List.forall_mem_nil _, hfresh⟩
          simpa [isAsciiBlank] using hindent.blank
        · exact ⟨w.dropWhile isAsciiBlank ++ ['\n'], indent, by simp, hindent, hline _⟩
  · rintro ⟨hroot, front, indent, hgap, hindent, hline⟩
    refine ⟨?_, hroot⟩
    rcases atLineStart_endOf_iff.1 hline with ⟨rfl, hbefore⟩ | ⟨w, rfl⟩
    · obtain rfl : fresh = true := hfresh.symm.trans hbefore
      have hdrop : r.lead.dropWhile isAsciiBlank = indent := hgap
      refine Or.inl ⟨rfl, fun c hc => ?_⟩
      rw [← List.takeWhile_append_dropWhile (p := isAsciiBlank) (l := r.lead), hdrop] at hc
      exact (List.mem_append.1 hc).elim List.mem_takeWhile_imp (hindent.blank c)
    · have hbreak : '\n' :: indent <:+ (r.ahead fresh).lead := ⟨w, by rw [hgap]; simp⟩
      exact Or.inr ⟨indent, hbreak.trans (r.leadAhead_suffix fresh), hindent⟩

/-! ### What is recognized -/

/-- The part of a rule from some place in front of its brace on is a reference block if a line
begins there, with a root selector. -/
theorem afterReference?_part (r : SpacedRule) {front part : Text}
    (h : r.lead ++ r.selector = front ++ part) (before : Option Char) (rest : Text) :
    afterReference? before (part ++ ('\x7b' :: r.body ++ '\x7d' :: rest)) = none ↔
      ¬ (atLineStart before = true ∧ OpensRoot part) := by
  have hmark {c : Char} (hc : c = '@' ∨ c = '\x7b' ∨ c = '\x7d') : c ∉ part := fun hmem =>
    r.not_mem hc (h ▸ List.mem_append_right front hmem)
  rw [← opensReference_iff_opensRoot (hmark (by decide)) (hmark (by decide)), ← List.append_assoc,
    afterReference?_block (hmark (by decide)) r.balanced]
  split <;> simp [*]

/-- Nothing is dropped from a rule that stays. -/
theorem clear_of_not_leads {r : SpacedRule} {fresh : Bool} {before : Option Char}
    (hfresh : atLineStart before = fresh) (hleads : ¬ r.Leads fresh)
    (hlines : ¬ HasLine OpensRoot r.selector) (rest : Text) :
    Text.Clear afterReference? before (r.leadAhead fresh ++ r.selector)
      ('\x7b' :: r.body ++ '\x7d' :: rest) := by
  refine Text.clear_iff.2 fun a c b heq => ((r.ahead fresh).afterReference?_part heq _ rest).2 ?_
  rintro ⟨hline, hroot⟩
  -- The place is in the selector, or among the blanks in front of it.
  obtain ⟨z, rfl, hz⟩ | ⟨w, hw, hz⟩ := List.append_eq_append_iff.1 heq
  · rw [Text.endOf_append] at hline
    rcases atLineStart_endOf_iff.1 hline with ⟨rfl, hfront⟩ | ⟨z, rfl⟩
    · rw [List.nil_append] at hz
      exact hleads ((leads_iff hfresh).2 ⟨hz ▸ hroot, r.leadAhead fresh, [], by simp [ahead],
        List.forall_mem_nil _, hfront⟩)
    · exact hlines ⟨c :: b, ⟨z, by rw [hz]; simp⟩, hroot⟩
  · rw [hz] at hroot
    have hblank : ∀ d ∈ w, isBlank d = true := fun d hd =>
      r.blank d ((r.leadAhead_suffix fresh).mem (hw ▸ List.mem_append_right a hd))
    obtain ⟨hindent, hselector⟩ := (opensRoot_append_iff hblank).1 hroot
    exact hleads ((leads_iff hfresh).2 ⟨hselector, a, w, hw, hindent, hline⟩)

/-- In front of the line on which a root selector stands nothing is dropped. -/
theorem clear_front {r : SpacedRule} {front indent : Text} {before : Option Char}
    (hlead : r.lead = front ++ indent) (hline : atLineStart (Text.endOf before front) = true)
    (rest : Text) : Text.Clear afterReference? before front
      (indent ++ r.selector ++ ('\x7b' :: r.body ++ '\x7d' :: rest)) := by
  refine Text.clear_iff.2 fun a c b heq => ?_
  have hsplit : r.lead ++ r.selector = a ++ (c :: b ++ (indent ++ r.selector)) := by
    rw [hlead, heq]
    simp
  rw [← List.append_assoc, r.afterReference?_part hsplit]
  rintro ⟨-, hroot⟩
  have hblank : ∀ d ∈ c :: b, isBlank d = true := fun d hd =>
    r.blank d (hlead ▸ List.mem_append_left indent (heq ▸ List.mem_append_right a hd))
  have hindent := ((opensRoot_append_iff hblank).1 hroot).1
  -- The blanks end with a line.
  have hbreak : '\n' ∈ c :: b := by
    rcases atLineStart_endOf_iff.1 hline with ⟨rfl, -⟩ | ⟨w, rfl⟩
    · simp at heq
    · have hlast := congrArg List.getLast? heq
      rw [List.getLast?_concat, List.getLast?_append_cons] at hlast
      exact List.mem_of_getLast? hlast.symm
  exact absurd (hindent '\n' hbreak) (by decide)

/-! ### Rule by rule -/

theorem ruleBlocks_textOf_cons (r : SpacedRule) (more : List SpacedRule) :
    ruleBlocks (textOf (r :: more)) = r.block.piece.rule?.toList ++ ruleBlocks (textOf more) := by
  rw [textOf, List.flatMap_cons]
  exact ruleBlocks_block r.block (textOf more)

/-- The selector of a rule that is dropped is a root selector. -/
theorem prefix_of_leads {r : SpacedRule} {fresh : Bool} (h : r.Leads fresh) {d : Rule}
    (hd : d ∈ r.block.piece.rule?.toList) : ":root".toList <+: d.selector := by
  obtain ⟨indent, rest, hindent, heq, -⟩ := h.2
  have hclose : '\x7d' ∉ r.selector := fun hmem =>
    r.not_mem (by decide) (List.mem_append_right _ hmem)
  rw [selector_of_rule? (Option.mem_toList.1 hd), show r.block.prelude = r.selector from rfl,
    selectorOf_of_not_mem hclose, heq]
  cases indent with
  | nil => exact Text.prefix_trim (by simp; decide) rest
  | cons c indent =>
    have hblank := isBlank_of_isAsciiBlank (hindent.blank c List.mem_cons_self)
    have hhead := r.plain.head c (by rw [heq]; rfl)
    exact absurd (hhead.symm.trans hblank) (by decide)

/-- A root selector that begins a line is dropped with its rule; the blanks in front of the line
stay. -/
theorem sanitizes_dropped {r : SpacedRule} {front indent rest : Text} {before : Option Char}
    {kept dropped : List Rule} (hlead : r.lead = front ++ indent) (hindent : Indentation indent)
    (hline : atLineStart (Text.endOf before front) = true) (hroot : OpensRoot r.selector)
    (hrun : Sanitizes [] (Text.endOf before front) (rest.dropWhile isAsciiBlank) kept dropped) :
    Sanitizes [] before (r.text ++ rest) kept (r.block.piece.rule?.toList ++ dropped) := by
  have hsplit : r.lead ++ r.selector = front ++ (indent ++ r.selector) := by rw [hlead, List.append_assoc]
  have hmark {c : Char} (hc : c = '@' ∨ c = '\x7b' ∨ c = '\x7d') : c ∉ indent ++ r.selector :=
    fun hmem => r.not_mem hc (hsplit ▸ List.mem_append_right front hmem)
  have hopens : opensReference (Text.endOf before front) (indent ++ r.selector) = true :=
    (opensReference_iff_opensRoot (hmark (by decide)) (hmark (by decide))).2
      ⟨hline, (opensRoot_append_iff fun c hc => isBlank_of_isAsciiBlank (hindent.blank c hc)).2
        ⟨hindent, hroot⟩⟩
  have hclear := clear_front hlead hline rest
  rw [← List.append_assoc] at hclear
  have hfront : Trivia front := trivia_of_blanks fun c hc => r.blank c (hlead ▸ List.mem_append_left _ hc)
  exact .dropped (b := r.block) hsplit (hmark (by decide)) hclear hopens (.skip hfront hrun)

/-- A rule in which no line but the first begins with a root selector stays otherwise. -/
theorem sanitizes_kept {r : SpacedRule} {fresh : Bool} {before : Option Char} {rest : Text}
    {kept dropped : List Rule} (hfresh : atLineStart before = fresh) (hleads : ¬ r.Leads fresh)
    (hlines : ¬ HasLine OpensRoot r.selector) (hrun : Sanitizes [] (some '\x7d') rest kept dropped) :
    Sanitizes [] before ((r.ahead fresh).text ++ rest) (r.block.piece.rule?.toList ++ kept) dropped :=
  .kept (b := (r.ahead fresh).block) (clear_of_not_leads hfresh hleads hlines rest)
    (fun hmem => absurd rfl (r.body_flat _ hmem).1) hrun

/-- What the search meets: the blanks behind a rule that is dropped are gone. -/
def textAhead (fresh : Bool) (rules : List SpacedRule) : Text :=
  if fresh then (textOf rules).dropWhile isAsciiBlank else textOf rules

theorem textAhead_cons (fresh : Bool) (r : SpacedRule) (more : List SpacedRule) :
    textAhead fresh (r :: more) = (r.ahead fresh).text ++ textOf more := by
  cases fresh with
  | false =>
    rw [textAhead, if_neg Bool.false_ne_true, textOf, List.flatMap_cons]
    rfl
  | true =>
    rw [textAhead, if_pos rfl, textOf, List.flatMap_cons]
    exact r.dropWhile_text (textOf more)

/-- A sheet is sanitized rule by rule, and only root variables are dropped. -/
theorem exists_sanitizes {rules : List SpacedRule} {fresh : Bool} {before : Option Char}
    (hfresh : atLineStart before = fresh) (hroots : RootsLead fresh rules) :
    ∃ dropped, (∀ d ∈ dropped, ":root".toList <+: d.selector) ∧
      Sanitizes [] before (textAhead fresh rules) (ruleBlocks (textOf (kept fresh rules))) dropped := by
  induction rules generalizing fresh before with
  | nil =>
    have htext : textAhead fresh [] = [] := by cases fresh <;> rfl
    have hnil : ruleBlocks [] = [] := by rw [ruleBlocks, pieces_nil]; rfl
    refine ⟨ruleBlocks [], by simp [hnil], ?_⟩
    rw [htext, show textOf (kept fresh []) = [] from rfl]
    have hdone : Sanitizes [] before [] [] (ruleBlocks []) :=
      .done (by rw [stripReferences_nil]; exact hnil)
    rwa [hnil] at hdone ⊢
  | cons r more ih =>
    obtain ⟨hlines, hmore⟩ := hroots
    rw [textAhead_cons]
    by_cases hleads : r.Leads fresh
    · obtain ⟨hroot, front, indent, hlead, hindent, hline⟩ := (leads_iff hfresh).1 hleads
      rw [decide_eq_true hleads] at hmore
      obtain ⟨dropped, hdropped, hrun⟩ := ih hline hmore
      rw [kept, if_pos hleads]
      refine ⟨r.block.piece.rule?.toList ++ dropped, fun d hd => ?_,
        sanitizes_dropped (r := r.ahead fresh) hlead hindent hline hroot hrun⟩
      exact (List.mem_append.1 hd).elim (prefix_of_leads hleads) (hdropped d)
    · rw [decide_eq_false hleads] at hmore
      have hbrace : atLineStart (some '\x7d') = false := rfl
      obtain ⟨dropped, hdropped, hrun⟩ := ih hbrace hmore
      rw [kept, if_neg hleads, ruleBlocks_textOf_cons]
      exact ⟨dropped, hdropped, sanitizes_kept hfresh hleads (hlines.resolve_left hleads) hrun⟩

end SpacedRule

/-! ### The outcome -/

theorem unquote_of_unquoted {raw : Text} (h : (Text.trim raw).getLast? ≠ some '"') :
    unquote raw = Text.trim raw := by
  simp only [unquote]
  split
  · next inner heq =>
    rw [heq] at h
    split
    · next hlast => exact absurd (by rw [List.getLast?_cons, hlast]; rfl) h
    · rfl
  · rfl

theorem SpacedRule.getLast?_textOf {rules : List SpacedRule} {c : Char}
    (h : (textOf rules).getLast? = some c) : c = '\x7d' := by
  cases rules using List.reverseRecOn with
  | nil => simp [textOf] at h
  | append_singleton rules r =>
    have htext : textOf (rules ++ [r]) =
        textOf rules ++ (r.lead ++ r.selector ++ '\x7b' :: r.body) ++ ['\x7d'] := by
      simp [textOf, FlatRule.text]
    rw [htext, List.getLast?_concat] at h
    exact (Option.some.inj h).symm

/-- **Sanitizing a sheet of flat rules drops the root variables and no other rule**, where no
line of a selector list but its first begins with a root selector. -/
theorem rules_sanitize_flat (policy : DuplicatePolicy) {css : Text} {rules : List SpacedRule}
    (h : Text.trim css = SpacedRule.textOf rules) (hroots : SpacedRule.RootsLead true rules) :
    (parse policy (sanitize css)).rules =
        (parse policy (SpacedRule.textOf (SpacedRule.kept true rules))).rules ∧
      ∀ r : Rule, ¬ ":root".toList <+: r.selector →
        (r ∈ (parse policy css).rules ↔ r ∈ (parse policy (sanitize css)).rules) := by
  have hunquote : unquote css = Text.trim css := unquote_of_unquoted fun hlast => by
    rw [h] at hlast
    exact absurd (SpacedRule.getLast?_textOf hlast) (by decide)
  have hahead : SpacedRule.textAhead true rules = unquote css := by
    rw [SpacedRule.textAhead, if_pos rfl, ← h, hunquote]
    cases htrim : Text.trim css with
    | nil => rfl
    | cons c t =>
      have hc : isBlank c = false := Text.not_blank_of_head?_trim (by rw [htrim]; rfl)
      simp [not_isAsciiBlank hc]
  have hline : atLineStart none = true := rfl
  obtain ⟨dropped, hdropped, hrun⟩ := SpacedRule.exists_sanitizes hline hroots
  rw [hahead] at hrun
  refine ⟨by rw [parse_sanitize policy hrun, rules_parse], fun r hr => ?_⟩
  have hne : ∀ d ∈ dropped, d.selector ≠ r.selector := fun d hd heq => hr (heq ▸ hdropped d hd)
  have hcss : (parse policy css).rules = (parse policy (unquote css)).rules := by
    rw [rules_parse, rules_parse, hunquote, ruleBlocks, ruleBlocks, pieces_trim]
  calc r ∈ (parse policy css).rules
      ↔ (parse policy (unquote css)).rule? r.selector = some r := by
        rw [rule?_eq_some_iff (nodup_selectors policy _), hcss]
        simp
    _ ↔ (parse policy (sanitize css)).rule? r.selector = some r := by rw [rule?_sanitize policy hrun hne]
    _ ↔ r ∈ (parse policy (sanitize css)).rules := by
        rw [rule?_eq_some_iff (nodup_selectors policy _)]
        simp

/-- Two blocks of root variables, one behind the other, between a selector list and a rule for the
same selectors. -/
def variablesSheet : List SpacedRule :=
  [⟨⟨[], ".a,\n.b ".toList, " color: red ".toList, .nil,
      ⟨by simp; decide, rfl⟩, by simp, by simp⟩, List.all_eq_true.1 rfl⟩,
    ⟨⟨"\n  ".toList, ":root ".toList, " --x: 1 ".toList, trivia_of_blanks (List.all_eq_true.1 rfl),
      ⟨by simp; decide, rfl⟩, by simp, by simp⟩, List.all_eq_true.1 rfl⟩,
    ⟨⟨" ".toList, ":root,\n:root .a ".toList, " --x: 2 ".toList,
      trivia_of_blanks (List.all_eq_true.1 rfl), ⟨by simp; decide, rfl⟩, by simp, by simp⟩,
      List.all_eq_true.1 rfl⟩,
    ⟨⟨"\n".toList, ".a,\n.b ".toList, " color: blue ".toList,
      trivia_of_blanks (List.all_eq_true.1 rfl), ⟨by simp; decide, rfl⟩, by simp, by simp⟩,
      List.all_eq_true.1 rfl⟩]

theorem rules_sanitize_variables :
    let css := ('\n' :: SpacedRule.textOf variablesSheet) ++ ['\n']
    Text.trim css = SpacedRule.textOf variablesSheet ∧ SpacedRule.RootsLead true variablesSheet ∧
      (parse .merge (sanitize css)).rules =
        (parse .merge (SpacedRule.textOf (SpacedRule.kept true variablesSheet))).rules ∧
      ∀ r : Rule, ¬ ":root".toList <+: r.selector →
        (r ∈ (parse .merge css).rules ↔ r ∈ (parse .merge (sanitize css)).rules) := by
  intro css
  have htrim : Text.trim css = SpacedRule.textOf variablesSheet := by decide +kernel
  have hroots : SpacedRule.RootsLead true variablesSheet := by decide +kernel
  exact ⟨htrim, hroots, rules_sanitize_flat .merge htrim hroots⟩

/-- Where a later line of a selector list is a root selector, the rule behind is lost: its selector
grows together with the line in front. -/
theorem rule_lost_behind_root_line :
    [DuplicatePolicy.merge, .lastWins].all (fun policy =>
      let css := ".a,\n:root \x7b --x: 1 \x7d\n.b \x7b color: red \x7d".toList
      (⟨".b".toList, [⟨"color".toList, "red".toList⟩]⟩ : Rule) ∈ (parse policy css).rules ∧
        (parse policy (sanitize css)).rules =
          [⟨".a,\n.b".toList, [⟨"color".toList, "red".toList⟩]⟩]) = true := by
  decide +kernel

end StyleSnapshot.Snapshot
