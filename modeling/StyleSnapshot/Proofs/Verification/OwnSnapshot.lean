import StyleSnapshot.Proofs.Comparison.Exact
import StyleSnapshot.Proofs.Snapshot.References
import StyleSnapshot.Proofs.Stylesheet.Blocks
import StyleSnapshot.Verification.Case

/-! The reference compiler against its own snapshots.

Reference blocks are dropped from the expectation only, so the compiler that wrote a
snapshot still prints them. `Sanitizes` follows both readings of the text, block by block;
it fails where a reference block reaches out of a comment, where a nested block would
become a flat rule, and where text in front of a reference block would grow into the
selector of a flat rule behind it. `verifyCase_own_snapshot` says that nothing else does
harm, as long as no rule that is dropped has the selector of one that is kept. -/
namespace StyleSnapshot
open Stylesheet Snapshot

/-! ### What dropping a block leaves -/

namespace Stylesheet

/-- The block without the reference blocks in its body. -/
def Block.stripped (b : Block) : Block where
  lead := b.lead
  prelude := b.prelude
  body := stripReferences (some '\x7b') b.body
  trivia := b.trivia
  plain := b.plain
  no_brace := b.no_brace
  balanced := depth?_stripReferences b.balanced

/-- A block that is nested stays so without its reference blocks. -/
def Block.StaysNested (b : Block) : Prop :=
  '\x7b' ∈ b.body →
    (selectorOf b.prelude).head? = some '@' ∨ '\x7b' ∈ stripReferences (some '\x7b') b.body

instance (b : Block) : Decidable b.StaysNested :=
  inferInstanceAs (Decidable ('\x7b' ∈ b.body →
    (selectorOf b.prelude).head? = some '@' ∨ '\x7b' ∈ stripReferences (some '\x7b') b.body))

theorem rule?_ofBlock_of_nested {prelude body : Text}
    (h : (selectorOf prelude).head? = some '@' ∨ '\x7b' ∈ body) :
    (Piece.ofBlock prelude body).rule? = none := by
  simp only [Piece.ofBlock, h, if_true]
  rfl

theorem rule?_stripped {b : Block} (h : b.StaysNested) : b.stripped.piece.rule? = b.piece.rule? := by
  by_cases hmem : '\x7b' ∈ b.body
  · rw [Block.piece, Block.piece, rule?_ofBlock_of_nested (Or.inr hmem)]
    exact rule?_ofBlock_of_nested (h hmem)
  · show (Piece.ofBlock b.prelude (stripReferences (some '\x7b') b.body)).rule? = b.piece.rule?
    rw [stripReferences_of_no_brace hmem]
    rfl

theorem Block.text_append (b : Block) (rest : Text) :
    b.text ++ rest = b.lead ++ b.prelude ++ ('\x7b' :: b.body ++ '\x7d' :: rest) := by
  simp [Block.text]

theorem stripReferences_block {b : Block} {before : Option Char} {rest : Text}
    (h : Text.Clear afterReference? before (b.lead ++ b.prelude) ('\x7b' :: b.body ++ '\x7d' :: rest)) :
    stripReferences before (b.text ++ rest) =
      b.stripped.text ++ stripReferences (some '\x7d') rest := by
  rw [b.text_append, stripReferences_clear h, List.cons_append,
    stripReferences_of_none (afterReference?_brace _ _), stripReferences_body b.balanced,
    b.stripped.text_append]
  rfl

theorem ruleBlocks_block (b : Block) (rest : Text) :
    ruleBlocks (b.text ++ rest) = b.piece.rule?.toList ++ ruleBlocks rest := by
  rw [ruleBlocks, pieces_block, List.filterMap_cons]
  cases b.piece.rule? <;> rfl

theorem ruleBlocks_congr {t u : Text} (h : skipTrivia t = skipTrivia u) :
    ruleBlocks t = ruleBlocks u := by
  rw [ruleBlocks, pieces_congr h, ruleBlocks]

theorem isBlank_of_isAsciiBlank {c : Char} (h : isAsciiBlank c = true) : isBlank c = true := by
  simp only [isAsciiBlank, Bool.or_eq_true, decide_eq_true_eq] at h
  rcases h with (((rfl | rfl) | rfl) | rfl) | rfl <;> decide

theorem ruleBlocks_dropWhile (t : Text) : ruleBlocks (t.dropWhile isAsciiBlank) = ruleBlocks t := by
  have hblank : Trivia (t.takeWhile isAsciiBlank) := trivia_of_blanks fun c hc =>
    isBlank_of_isAsciiBlank (List.mem_takeWhile_imp hc)
  refine ruleBlocks_congr ?_
  conv_rhs => rw [← List.takeWhile_append_dropWhile (p := isAsciiBlank) (l := t)]
  exact (skipTrivia_trivia hblank _).symm

end Stylesheet

/-! ### Block by block -/

/-- What is left of `t` without its reference blocks reads as the flat rules `kept`, and `t`
itself has besides them the flat rules `dropped`. `before` is the last character that was
kept in front of `t`, `carry` the text in front that was kept and belongs to no block yet. -/
inductive Sanitizes : Text → Option Char → Text → List Rule → List Rule → Prop
  /-- No flat rule is left. -/
  | done {carry : Text} {before : Option Char} {t : Text} :
      ruleBlocks (carry ++ stripReferences before t) = [] → Sanitizes carry before t [] (ruleBlocks t)
  /-- Blanks and comments are part of no block. -/
  | skip {carry : Text} {before : Option Char} {t : Text} {kept dropped : List Rule} :
      Trivia carry → Sanitizes [] before t kept dropped → Sanitizes carry before t kept dropped
  /-- A reference block that begins in a comment ends in it. -/
  | comment {carry lead lead' : Text} {before : Option Char} {rest : Text} {kept dropped : List Rule} :
      Trivia lead →
      stripReferences before (lead ++ rest) =
        lead' ++ stripReferences (Text.endOf before lead') rest →
      Sanitizes (carry ++ lead') (Text.endOf before lead') rest kept dropped →
      Sanitizes carry before (lead ++ rest) kept dropped
  /-- A reference block, and what stands in front of it. -/
  | dropped {carry : Text} {before : Option Char} {b : Block} {front opening rest : Text}
      {kept dropped : List Rule} :
      b.lead ++ b.prelude = front ++ opening → '\x7b' ∉ opening →
      Text.Clear afterReference? before front (opening ++ '\x7b' :: b.body ++ '\x7d' :: rest) →
      opensReference (Text.endOf before front) opening = true →
      Sanitizes (carry ++ front) (Text.endOf before front) (rest.dropWhile isAsciiBlank)
        kept dropped →
      Sanitizes carry before (b.text ++ rest) kept (b.piece.rule?.toList ++ dropped)
  /-- Reference blocks begin at most in the body. -/
  | kept {before : Option Char} {b : Block} {rest : Text} {kept dropped : List Rule} :
      Text.Clear afterReference? before (b.lead ++ b.prelude) ('\x7b' :: b.body ++ '\x7d' :: rest) →
      b.StaysNested → Sanitizes [] (some '\x7d') rest kept dropped →
      Sanitizes [] before (b.text ++ rest) (b.piece.rule?.toList ++ kept) dropped
  /-- What was kept in front goes into a block that is no flat rule. -/
  | absorbed {carry : Text} {before : Option Char} {b whole : Block} {rest : Text}
      {kept dropped : List Rule} :
      Text.Clear afterReference? before (b.lead ++ b.prelude) ('\x7b' :: b.body ++ '\x7d' :: rest) →
      whole.lead ++ whole.prelude = carry ++ (b.lead ++ b.prelude) →
      whole.body = stripReferences (some '\x7b') b.body → whole.piece.rule? = none →
      Sanitizes [] (some '\x7d') rest kept dropped →
      Sanitizes carry before (b.text ++ rest) kept (b.piece.rule?.toList ++ dropped)

/-- The rules of a dropped block are not among those with another selector. -/
theorem filter_dropped {b : Block} {rest : Text} {dropped : List Rule} {selector : Text}
    (h : ∀ r ∈ b.piece.rule?.toList ++ dropped, r.selector ≠ selector) :
    (ruleBlocks (b.text ++ rest)).filter (·.selector = selector) =
      (ruleBlocks rest).filter (·.selector = selector) := by
  have hblock : b.piece.rule?.toList.filter (·.selector = selector) = [] :=
    List.filter_eq_nil_iff.2 fun r hr => by simpa using h r (List.mem_append_left _ hr)
  rw [ruleBlocks_block, List.filter_append, hblock, List.nil_append]

/-- The rules that are kept are all that is left, and for a selector that only they have
nothing is dropped. -/
theorem ruleBlocks_of_sanitizes {carry : Text} {before : Option Char} {t : Text}
    {kept dropped : List Rule} (h : Sanitizes carry before t kept dropped) :
    ruleBlocks (carry ++ stripReferences before t) = kept ∧
      ∀ selector, (∀ r ∈ dropped, r.selector ≠ selector) →
        (ruleBlocks t).filter (·.selector = selector) = kept.filter (·.selector = selector) := by
  induction h with
  | done hnil =>
    refine ⟨hnil, fun selector hselector => ?_⟩
    exact List.filter_eq_nil_iff.2 fun r hr => by simpa using hselector r hr
  | skip hcarry _ ih =>
    rw [ruleBlocks_congr (skipTrivia_trivia hcarry _)]
    exact ih
  | comment hlead hstrip _ ih =>
    rw [hstrip, ← List.append_assoc, ruleBlocks_congr (skipTrivia_trivia hlead _)]
    exact ih
  | @dropped carry before b front opening rest kept dropped hsplit hbrace hclear hopens _ ih =>
    have hafter := afterReference?_block hbrace b.balanced (Text.endOf before front) rest
    rw [if_pos hopens] at hafter
    have htext : b.text ++ rest = front ++ (opening ++ '\x7b' :: b.body ++ '\x7d' :: rest) := by
      rw [b.text_append, hsplit]
      simp
    refine ⟨?_, fun selector hselector => ?_⟩
    · rw [htext, stripReferences_clear hclear, stripReferences_of_some hafter, ← List.append_assoc]
      exact ih.1
    · rw [filter_dropped hselector, ← ruleBlocks_dropWhile]
      exact ih.2 selector fun r hr => hselector r (List.mem_append_right _ hr)
  | kept hclear hnested _ ih =>
    refine ⟨?_, fun selector hselector => ?_⟩
    · rw [List.nil_append, stripReferences_block hclear, ruleBlocks_block, rule?_stripped hnested]
      exact congrArg _ ih.1
    · rw [ruleBlocks_block, List.filter_append, List.filter_append, ih.2 selector hselector]
  | @absorbed carry before b whole rest kept dropped hclear hfront hbody hnone _ ih =>
    have htext : carry ++ (b.stripped.text ++ stripReferences (some '\x7d') rest) =
        whole.text ++ stripReferences (some '\x7d') rest := by
      rw [whole.text_append, hfront, hbody, b.stripped.text_append]
      simp [Block.stripped]
    refine ⟨?_, fun selector hselector => ?_⟩
    · rw [stripReferences_block hclear, htext, ruleBlocks_block, hnone]
      exact ih.1
    · rw [filter_dropped hselector]
      exact ih.2 selector fun r hr => hselector r (List.mem_append_right _ hr)

section Outcome
variable {s : Text} {kept dropped : List Rule}

theorem parse_sanitize (policy : DuplicatePolicy) (h : Sanitizes [] none (unquote s) kept dropped) :
    (parse policy (sanitize s)).rules = addBlocks policy [] kept := by
  rw [rules_parse, sanitize, ruleBlocks, pieces_trim, ← ruleBlocks]
  exact congrArg _ (ruleBlocks_of_sanitizes h).1

/-- A selector that no dropped rule has reads as in the text as it was. -/
theorem rule?_sanitize (policy : DuplicatePolicy) (h : Sanitizes [] none (unquote s) kept dropped)
    {selector : Text} (hne : ∀ d ∈ dropped, d.selector ≠ selector) :
    (parse policy (sanitize s)).rule? selector = (parse policy (unquote s)).rule? selector := by
  rw [rule?, parse_sanitize policy h, find?_addBlocks, rule?, rules_parse, find?_addBlocks,
    (ruleBlocks_of_sanitizes h).2 selector hne]

end Outcome

end StyleSnapshot
