import StyleSnapshot.Proofs.Stylesheet.Complete
import StyleSnapshot.Proofs.Text.Words

/-! Comments inside a rule.

Where a block ends is decided by its braces alone, and only then are the comments taken out of
its body. So a comment may stand anywhere in the body of a flat rule as long as it has no brace
itself (`parse_comment`). One that has a brace ends the rule early or keeps it open, and
there are rules that are then read as something else: `comment_transparent_iff`. -/
namespace StyleSnapshot.Stylesheet

/-! ### Rules with a comment -/

def comment (inside : Text) : Text := commentOpen ++ inside ++ commentClose

/-- A flat rule without comments, and a place in its body: between any two characters, so also
in front of a declaration or of the closing brace. -/
structure CutRule where
  selector : Text
  /-- The body in front of the place. -/
  front : Text
  /-- The body behind the place. -/
  back : Text
  not_at : (Text.trim selector).head? ≠ some '@'
  selector_flat : '\x7b' ∉ selector ∧ '\x7d' ∉ selector
  selector_uncommented : ¬ commentOpen <:+: selector
  body_flat : '\x7b' ∉ front ++ back ∧ '\x7d' ∉ front ++ back
  body_uncommented : ¬ commentOpen <:+: front ++ back

namespace CutRule

/-- The rule with something written at the place. -/
def text (r : CutRule) (written : Text) : Text :=
  r.selector ++ '\x7b' :: (r.front ++ written ++ r.back) ++ ['\x7d']

variable (r : CutRule)

theorem plain : Plain (Text.trimStart r.selector) where
  head c hc := by
    have hhead := List.head?_dropWhile_not isBlank r.selector
    rw [← Text.trimStart, hc] at hhead
    simpa using hhead
  comment := by
    refine Option.eq_none_iff_forall_ne_some.2 fun rest hrest => r.selector_uncommented ?_
    have hprefix : commentOpen <+: Text.trimStart r.selector :=
      ⟨rest, (Text.after?_eq_some_iff.1 hrest).symm⟩
    exact hprefix.isInfix.trans (List.dropWhile_suffix isBlank).isInfix

theorem selectorOf_trimStart : selectorOf (Text.trimStart r.selector) = Text.trim r.selector := by
  have hclose : '\x7d' ∉ Text.trimStart r.selector := fun h =>
    r.selector_flat.2 ((List.dropWhile_suffix isBlank).mem h)
  rw [selectorOf_of_not_mem hclose, Text.trim, Text.trimStart_trimStart, Text.trim]

/-- The block of the rule, with some balanced body. -/
def block {body : Text} (hbody : Balanced body) : Block where
  lead := r.selector.takeWhile isBlank
  prelude := Text.trimStart r.selector
  body := body
  trivia := trivia_of_blanks fun _ hc => List.mem_takeWhile_imp hc
  plain := r.plain
  no_brace h := r.selector_flat.1 ((List.dropWhile_suffix isBlank).mem h)
  balanced := hbody

theorem text_block {body : Text} (hbody : Balanced body) :
    (r.block hbody).text = r.selector ++ '\x7b' :: body ++ ['\x7d'] := by
  show r.selector.takeWhile isBlank ++ r.selector.dropWhile isBlank ++ '\x7b' :: body ++ ['\x7d'] = _
  rw [List.takeWhile_append_dropWhile]

variable {r}

theorem body_flat_of {written : Text} (h : '\x7b' ∉ written ∧ '\x7d' ∉ written) :
    '\x7b' ∉ r.front ++ written ++ r.back ∧ '\x7d' ∉ r.front ++ written ++ r.back := by
  have hbody := r.body_flat
  simp only [List.mem_append, not_or] at hbody ⊢
  exact ⟨⟨⟨hbody.1.1, h.1⟩, hbody.1.2⟩, ⟨⟨hbody.2.1, h.2⟩, hbody.2.2⟩⟩

theorem balanced_of {written : Text} (h : '\x7b' ∉ written ∧ '\x7d' ∉ written) :
    Balanced (r.front ++ written ++ r.back) :=
  depth?_of_not_mem (body_flat_of h).1 (body_flat_of h).2 0

/-- Whatever is written in a flat rule without a brace, the rule ends where it did. -/
theorem pieces_text {written : Text} (h : '\x7b' ∉ written ∧ '\x7d' ∉ written) (after : Text) :
    pieces (r.text written ++ after) =
      .ofBlock (Text.trimStart r.selector) (r.front ++ written ++ r.back) :: pieces after := by
  rw [text, ← r.text_block (balanced_of h)]
  exact pieces_block _ after

theorem complete_text {written : Text} (h : '\x7b' ∉ written ∧ '\x7d' ∉ written) :
    Complete (r.text written) := by
  rw [text, ← r.text_block (balanced_of h), ← List.append_nil (Block.text _)]
  exact (complete_block _).2 Trivia.nil.complete

end CutRule

/-! ### Comments without a brace -/

theorem comment_flat {c : Text} (h : '\x7b' ∉ c ∧ '\x7d' ∉ c) :
    '\x7b' ∉ comment c ∧ '\x7d' ∉ comment c := by
  simp [comment, commentOpen, commentClose, h]

/-- Taking out the comments takes out this one, and leaves what stands around it. -/
theorem stripComments_comment {front c back : Text} (hc : ¬ commentClose <:+: c)
    (h : ¬ commentOpen <:+: front ++ back) :
    stripComments (front ++ comment c ++ back) = front ++ back := by
  have hfront : ¬ commentOpen <:+: front := fun hm =>
    h (hm.trans (List.prefix_append front back).isInfix)
  have hback : ¬ commentOpen <:+: back := fun hm =>
    h (hm.trans (List.suffix_append front back).isInfix)
  have hopen : Text.cut? commentOpen (front ++ comment c ++ back) =
      some (front, c ++ commentClose ++ back) := by
    simp only [comment, List.append_assoc]
    rw [← List.append_assoc]
    exact Text.cut?_pair (by decide) hfront _
  have hclose : Text.cut? commentClose (c ++ commentClose ++ back) = some (c, back) :=
    Text.cut?_pair (by decide) hc back
  rw [stripComments_of_closed hopen hclose, stripComments_of_not_infix hback]

/-- A comment without a brace does not show in what a rule is read as. -/
theorem ofBlock_comment (r : CutRule) {c : Text} (hc : ¬ commentClose <:+: c)
    (h : '\x7b' ∉ c ∧ '\x7d' ∉ c) :
    Piece.ofBlock (Text.trimStart r.selector) (r.front ++ comment c ++ r.back) =
      .ofBlock (Text.trimStart r.selector) (r.front ++ r.back) := by
  have hat : (selectorOf (Text.trimStart r.selector)).head? ≠ some '@' := by
    rw [r.selectorOf_trimStart]
    exact r.not_at
  simp only [Piece.ofBlock, hat, (CutRule.body_flat_of (comment_flat h)).1, r.body_flat.1, or_self,
    if_false, declarations, stripComments_comment hc r.body_uncommented,
    stripComments_of_not_infix r.body_uncommented]

/-- A comment without a brace is as if it were not there. -/
theorem pieces_comment (r : CutRule) {c : Text} (hc : ¬ commentClose <:+: c)
    (h : '\x7b' ∉ c ∧ '\x7d' ∉ c) (after : Text) :
    pieces (r.text (comment c) ++ after) = pieces (r.text [] ++ after) := by
  rw [CutRule.pieces_text (comment_flat h), CutRule.pieces_text (by simp), List.append_nil,
    ofBlock_comment r hc h]

/-! ### Comments with a brace -/

/-- A selector is no longer than the text it is read from. -/
theorem length_selector_le {t : Text} {r : Rule} (h : r ∈ ruleBlocks t) :
    r.selector.length ≤ t.length := by
  rw [ruleBlocks] at h
  fun_induction pieces t with
  | case1 t hnone => simp at h
  | case2 t piece rest hnext ih =>
    obtain ⟨p, hp, hr⟩ := List.mem_filterMap.1 h
    rcases List.mem_cons.1 hp with rfl | hp
    · obtain ⟨prelude, body, hskip, -, -, rfl⟩ | ⟨-, -, rfl⟩ := cases_of_nextPiece? hnext
      · have hlength := skipTrivia_length_le t
        rw [hskip, List.length_append] at hlength
        have htake := List.takeWhile_sublist (fun c => decide (c ≠ '\x7d')) (l := prelude.reverse)
        have hselector := Text.length_trim_le (prelude.reverse.takeWhile (· ≠ '\x7d')).reverse
        rw [selector_of_rule? hr, selectorOf]
        have := htake.length_le
        simp only [List.length_reverse] at this hselector
        omega
      · simp [Piece.rule?] at hr
    · have := nextPiece?_length hnext
      have := ih (List.mem_filterMap.2 ⟨p, hp, hr⟩)
      omega

/-- A rule with one declaration, whose selector is longer than any that `c` could hold. -/
def probe (c : Text) : CutRule where
  selector := List.replicate (c.length + 7) 'a'
  front := []
  back := "b:d".toList
  not_at := by
    rw [Text.head?_trim (c := 'a') (by decide) (by simp [List.replicate_succ])]
    decide
  selector_flat := by simp
  selector_uncommented := by
    intro h
    have hmem : '/' ∈ List.replicate (c.length + 7) 'a' := h.mem List.mem_cons_self
    simp at hmem
  body_flat := by decide
  body_uncommented := by decide

section Probe
variable {c : Text}

theorem trim_probe : Text.trim (probe c).selector = (probe c).selector := by
  have blank_free {d : Char} (hd : d ∈ (probe c).selector) : isBlank d = false := by
    rw [(List.mem_replicate.1 hd).2]
    decide
  rw [Text.trim_eq_self_iff]
  exact ⟨fun _ hd => blank_free (List.mem_of_head? hd), fun _ hd => blank_free (List.mem_of_getLast? hd)⟩

theorem trimStart_probe : Text.trimStart (probe c).selector = (probe c).selector :=
  Text.trimStart_cons_of_not_blank (by decide) _

/-- What a flat block with the selector of the probe is read as. -/
theorem ofBlock_probe {body : Text} (h : '\x7b' ∉ body) :
    Piece.ofBlock (probe c).selector body = .rule ⟨(probe c).selector, declarations body⟩ := by
  have hselector : selectorOf (probe c).selector = (probe c).selector := by
    rw [selectorOf_of_not_mem (probe c).selector_flat.2, trim_probe]
  have hat := (probe c).not_at
  rw [trim_probe] at hat
  have hnamed : (probe c).selector ≠ [] := by simp [probe]
  simp only [Piece.ofBlock, hselector, hat, h, hnamed, or_self, if_false]

theorem parse_probe (policy : DuplicatePolicy) : parse policy ((probe c).text []) =
    ⟨[⟨(probe c).selector, [⟨['b'], ['d']⟩]⟩], []⟩ := by
  have hpieces := @CutRule.pieces_text (probe c) [] (by simp) []
  have hbody : (probe c).front ++ [] ++ (probe c).back = "b:d".toList := rfl
  have hdeclarations : declarations "b:d".toList = [⟨['b'], ['d']⟩] := by decide +kernel
  rw [List.append_nil, pieces_nil, trimStart_probe, hbody, ofBlock_probe (by decide), hdeclarations] at hpieces
  rw [parse, hpieces]
  rfl

/-- A comment that is not closed takes what follows along. -/
theorem declarations_commentOpen {t : Text} (h : ¬ commentClose <:+: t) :
    declarations (commentOpen ++ t) = [] := by
  have hopen : Text.cut? commentOpen (commentOpen ++ t) = some ([], t) :=
    Text.cut?_self_of_cons (Text.after?_self commentOpen t)
  rw [declarations, stripComments_of_open hopen (Text.cut?_eq_none_iff.2 h)]
  decide

/-- A brace in a comment makes the rule opaque, or ends it there. -/
theorem pieces_probe (hc : ¬ commentClose <:+: c) (hbrace : ¬ ('\x7b' ∉ c ∧ '\x7d' ∉ c)) :
    ∃ piece rest, pieces ((probe c).text (comment c)) = piece :: pieces rest ∧
      ((∃ t, piece = .unparsed t) ∨
        piece = .rule ⟨(probe c).selector, []⟩ ∧ rest.length < (probe c).selector.length) := by
  have hskip : skipTrivia ((probe c).text (comment c)) =
      (probe c).selector ++ '\x7b' :: (comment c ++ "b:d\x7d".toList) := by
    have hplain := (probe c).plain.brace (comment c ++ "b:d\x7d".toList)
    rw [trimStart_probe] at hplain
    rw [← skipTrivia_of_plain hplain]
    simp [CutRule.text, probe]
  have hselector := (probe c).selector_flat.1
  obtain ⟨piece, rest, hnext⟩ : ∃ piece rest, nextPiece? ((probe c).text (comment c)) = some (piece, rest) :=
    exists_piece (by simp [hskip])
  refine ⟨piece, rest, pieces_of_some hnext, ?_⟩
  obtain ⟨prelude, body, hsplit, hprelude, hbody, rfl⟩ | ⟨-, -, rfl⟩ := cases_of_nextPiece? hnext
  · rw [hskip] at hsplit
    obtain rfl : (probe c).selector = prelude := by
      rw [← takeWhile_brace hselector, hsplit, takeWhile_brace hprelude]
    have hinside : commentOpen ++ c ++ (commentClose ++ "b:d\x7d".toList) = body ++ '\x7d' :: rest := by
      rw [← List.append_assoc]
      exact (List.cons.inj (List.append_cancel_left hsplit)).2
    by_cases hopen : '\x7b' ∈ body
    · exact .inl ⟨_, if_pos (Or.inr hopen)⟩
    · have hclose := hbody.not_mem_close hopen
      -- A body without braces cannot hold all of the comment.
      have hshort (more : Text) : body ≠ commentOpen ++ c ++ more := fun heq => by
        simp [heq, commentOpen] at hopen hclose
        exact hbrace ⟨hopen.1, hclose.1⟩
      obtain ⟨more, heq, -⟩ | ⟨more, heq, hrest⟩ := List.append_eq_append_iff.1 hinside
      · exact absurd heq (hshort more)
      · cases more with
        | nil => exact absurd (by simpa using heq.symm) (hshort [])
        | cons d more =>
          obtain ⟨rfl, rfl⟩ := List.cons.inj hrest
          obtain ⟨front, rfl, rfl⟩ : ∃ front, body = commentOpen ++ front ∧ c = front ++ '\x7d' :: more := by
            obtain ⟨front, hbody', hc'⟩ | ⟨back, hmark, hback⟩ := List.append_eq_append_iff.1 heq
            · exact ⟨front, hbody', hc'⟩
            · cases back with
              | nil => exact ⟨[], by simpa using hmark.symm, hback.symm⟩
              | cons d back =>
                obtain ⟨rfl, -⟩ := List.cons.inj hback
                have hmem : '\x7d' ∈ commentOpen := by simp [hmark]
                exact absurd hmem (by decide)
          have hopenFront : ¬ commentClose <:+: front := fun h =>
            hc (h.trans (List.prefix_append front _).isInfix)
          refine .inr ⟨?_, ?_⟩
          · rw [ofBlock_probe hopen, declarations_commentOpen hopenFront]
          · simp [probe, commentClose]
            omega
  · exact .inl ⟨_, rfl⟩

end Probe

/-! ### Which comments can be left out -/

/-- A comment without a brace may be written anywhere in the body of a flat rule. -/
theorem parse_comment {c : Text} (hc : ¬ commentClose <:+: c) (h : '\x7b' ∉ c ∧ '\x7d' ∉ c)
    (r : CutRule) {before : Text} (hbefore : Complete before) (after : Text) (policy : DuplicatePolicy) :
    parse policy (before ++ r.text (comment c) ++ after) = parse policy (before ++ r.text [] ++ after) := by
  simp only [parse, List.append_assoc, pieces_append hbefore, pieces_comment r hc h after]

/-- **A comment can be left out everywhere just when it has no brace.** -/
theorem comment_transparent_iff {c : Text} (hc : ¬ commentClose <:+: c) :
    (∀ (r : CutRule) (before after : Text) (policy : DuplicatePolicy), Complete before →
      parse policy (before ++ r.text (comment c) ++ after) =
        parse policy (before ++ r.text [] ++ after)) ↔
    '\x7b' ∉ c ∧ '\x7d' ∉ c := by
  constructor
  · intro h
    by_contra hbrace
    have hparse := h (probe c) [] [] .merge Trivia.nil.complete
    simp only [List.nil_append, List.append_nil] at hparse
    rw [parse_probe] at hparse
    obtain ⟨piece, rest, hpieces, ⟨t, rfl⟩ | ⟨rfl, hrest⟩⟩ := pieces_probe hc hbrace
    · have hunparsed := congrArg Stylesheet.unparsed hparse
      rw [unparsed_parse, hpieces] at hunparsed
      simp [Piece.unparsed?] at hunparsed
    · have hblocks : blocksOf ((probe c).text (comment c)) (probe c).selector =
          [⟨(probe c).selector, []⟩] := by
        have hothers : (ruleBlocks rest).filter (·.selector = (probe c).selector) = [] := by
          refine List.filter_eq_nil_iff.2 fun r hr hs => ?_
          have hlength := length_selector_le hr
          rw [of_decide_eq_true hs] at hlength
          omega
        have hfirst : ruleBlocks ((probe c).text (comment c)) =
            ⟨(probe c).selector, []⟩ :: ruleBlocks rest := by
          rw [ruleBlocks, hpieces]
          rfl
        rw [blocksOf, hfirst, List.filter_cons_of_pos (by simp), hothers]
      have hrule := rule?_parse .merge ((probe c).text (comment c)) (probe c).selector
      rw [hparse, hblocks] at hrule
      simp [rule?, declarationsOf] at hrule
  · exact fun h r before after policy hbefore => parse_comment hc h r hbefore after policy

/-- A rule with two declarations, cut in front of the second. -/
def twoDeclarations : CutRule where
  selector := "\n.a\\@b ".toList
  front := " m: 0;".toList
  back := " c: d;".toList
  not_at := by decide +kernel
  selector_flat := by decide +kernel
  selector_uncommented := by decide +kernel
  body_flat := by decide +kernel
  body_uncommented := by decide +kernel

/-- A comment that looks like a declaration and like the beginning of a comment, behind the same
rule without it and in front of a block that is not closed. -/
theorem comment_transparent_declaration :
    let c := " x: y; /* é*".toList
    let before := twoDeclarations.text []
    ¬ commentClose <:+: c ∧ ('\x7b' ∉ c ∧ '\x7d' ∉ c) ∧ Complete before ∧
      parse .merge (before ++ twoDeclarations.text (comment c) ++ ".b\x7b".toList) =
        ⟨[⟨".a\\@b".toList, [⟨['m'], ['0']⟩, ⟨['c'], ['d']⟩, ⟨['m'], ['0']⟩, ⟨['c'], ['d']⟩]⟩],
          [".b\x7b".toList]⟩ := by
  intro c before
  have hc : ¬ commentClose <:+: c := by decide +kernel
  have hflat : '\x7b' ∉ c ∧ '\x7d' ∉ c := by decide +kernel
  have hbefore : Complete before := CutRule.complete_text (by simp)
  have hparse := (comment_transparent_iff hc).2 hflat twoDeclarations before ".b\x7b".toList .merge hbefore
  exact ⟨hc, hflat, hbefore, hparse.trans (by decide +kernel)⟩

/-- A closing brace in a comment ends the rule there and loses the second declaration; an opening
one keeps the whole rule as text. -/
theorem brace_in_comment :
    ¬ commentClose <:+: " \x7d ".toList ∧ ¬ commentClose <:+: "\x7b".toList ∧
      parse .merge (twoDeclarations.text []) =
        ⟨[⟨".a\\@b".toList, [⟨['m'], ['0']⟩, ⟨['c'], ['d']⟩]⟩], []⟩ ∧
      parse .merge (twoDeclarations.text (comment " \x7d ".toList)) =
        ⟨[⟨".a\\@b".toList, [⟨['m'], ['0']⟩]⟩], []⟩ ∧
      parse .merge (twoDeclarations.text (comment "\x7b".toList)) =
        ⟨[], [".a\\@b \x7b m: 0;/*\x7b*/ c: d;\x7d".toList]⟩ := by
  decide +kernel

end StyleSnapshot.Stylesheet
