import StyleSnapshot.Proofs.Snapshot.Spans
import StyleSnapshot.Proofs.Verification.OwnSnapshot

/-! Sheets that the reference compiler passes.

`Sanitizes` follows the search for reference blocks and the reading of blocks through a text at
once. Here the two are taken apart. The search cuts a text into fragments (`Fragment.Cut`), the
reader into parts (`Part`), and where the cuts fall in line all that is asked of a part is about
itself and the text that was kept in front of it (`Meets`). `sanitizes_sheet` says that such a sheet
is sanitized part by part, and which rules are kept and which are dropped; `rule?_sanitize_sheet`
says what is left to read. -/
namespace StyleSnapshot
open Stylesheet Snapshot

/-! ### Along a cut -/

namespace Snapshot.Fragment

/-- The characters of a text, all of which stay. -/
def keptOf (t : Text) : List Fragment := t.map kept

theorem textOf_append (fs gs : List Fragment) : textOf (fs ++ gs) = textOf fs ++ textOf gs :=
  List.flatMap_append

theorem textOf_keptOf (t : Text) : textOf (keptOf t) = t := by
  induction t with
  | nil => rfl
  | cons c t ih => exact congrArg (c :: ·) ih

theorem remainsOf_append (fs gs : List Fragment) :
    remainsOf (fs ++ gs) = remainsOf fs ++ remainsOf gs := List.flatMap_append

theorem remainsOf_keptOf (t : Text) : remainsOf (keptOf t) = t := by
  induction t with
  | nil => rfl
  | cons c t ih => exact congrArg (c :: ·) ih

/-- What follows a fragment that is dropped is where the search goes on. -/
theorem dropWhile_blanks {before : Option Char} {b : ReferenceBlock} {blanks : Text}
    {gs : List Fragment} (h : Cut before (dropped b blanks :: gs)) :
    (blanks ++ textOf gs).dropWhile isAsciiBlank = textOf gs := by
  obtain ⟨-, hblanks, hhead, -⟩ := h
  rw [List.dropWhile_append_of_pos hblanks]
  cases htext : textOf gs with
  | nil => rfl
  | cons c t =>
    have hc := hhead c (by rw [htext]; rfl)
    rw [List.dropWhile_cons_of_neg (by rw [hc]; exact Bool.false_ne_true)]

/-- Where a cut falls the search goes on with what is left in front. -/
theorem stripReferences_of_cut {before : Option Char} {fs gs : List Fragment}
    (h : Cut before (fs ++ gs)) : stripReferences before (textOf fs ++ textOf gs) =
      remainsOf fs ++ stripReferences (Text.endOf before (remainsOf fs)) (textOf gs) := by
  induction fs generalizing before with
  | nil => rfl
  | cons f fs ih =>
    cases f with
    | kept c =>
      obtain ⟨hc, hmore⟩ := h
      have hnone : afterReference? before (c :: (textOf fs ++ textOf gs)) = none := by
        rw [← textOf_append]
        exact afterReference?_eq_none_iff.2 hc
      calc stripReferences before (c :: (textOf fs ++ textOf gs))
          = c :: stripReferences (some c) (textOf fs ++ textOf gs) := stripReferences_of_none hnone
        _ = _ := by
          rw [ih hmore]
          rfl
    | dropped b blanks =>
      have hdrop := dropWhile_blanks h
      obtain ⟨hfollow, -, -, hmore⟩ := h
      have htext : textOf (dropped b blanks :: fs) ++ textOf gs =
          b.text ++ (blanks ++ textOf (fs ++ gs)) := by
        rw [textOf_append]
        simp [textOf, text]
      have hsome : afterReference? before (b.text ++ (blanks ++ textOf (fs ++ gs))) =
          some (textOf (fs ++ gs)) :=
        afterReference?_eq_some_iff.2 ⟨b, _, hfollow, rfl, hdrop.symm⟩
      rw [htext, stripReferences_of_some hsome, textOf_append]
      exact ih hmore

theorem Cut.behind {before : Option Char} {fs gs : List Fragment} (h : Cut before (fs ++ gs)) :
    Cut (Text.endOf before (remainsOf fs)) gs := by
  induction fs generalizing before with
  | nil => exact h
  | cons f fs ih =>
    cases f with
    | kept c => exact ih h.2
    | dropped b blanks => exact ih h.2.2.2

/-- In text that stays no reference block begins. -/
theorem Cut.clear {before : Option Char} {t : Text} {gs : List Fragment}
    (h : Cut before (keptOf t ++ gs)) : Text.Clear afterReference? before t (textOf gs) := by
  induction t generalizing before with
  | nil => trivial
  | cons c t ih =>
    have htext : textOf (keptOf t ++ gs) = t ++ textOf gs := by rw [textOf_append, textOf_keptOf]
    have hnone : afterReference? before (c :: textOf (keptOf t ++ gs)) = none :=
      afterReference?_eq_none_iff.2 h.1
    rw [htext] at hnone
    exact ⟨hnone, ih h.2⟩

end Snapshot.Fragment

open Fragment (textOf remainsOf keptOf Cut)

/-! ### Parts -/

/-- A part of a sheet. -/
inductive Part where
  /-- Blanks and comments. A reference block in them lies inside of a comment. -/
  | trivia (fragments : List Fragment) (isTrivia : Trivia (textOf fragments))
  /-- A block from which at most reference blocks in its body are dropped. -/
  | block (b : Block) (inside : List Fragment) (body : textOf inside = b.body)
  /-- Such a block with what was kept in front of it, as it is read afterwards. -/
  | absorbing (b whole : Block) (inside : List Fragment) (body : textOf inside = b.body)
      (stripped : whole.body = b.stripped.body)
  /-- A block of which `front` is kept, with the blanks behind it. -/
  | reference (b : Block) (front : Text) (r : ReferenceBlock) (blanks : Text)
      (split : b.lead ++ b.prelude = front ++ (r.opening ++ r.prelude)) (body : b.body = r.body)

namespace Part

/-- A block, the body of which is cut into fragments. -/
def fragmentsOf (b : Block) (inside : List Fragment) : List Fragment :=
  keptOf (b.lead ++ b.prelude) ++ .kept '\x7b' :: inside ++ [.kept '\x7d']

def fragments : Part → List Fragment
  | trivia fs _ => fs
  | block b inside _ | absorbing b _ inside _ _ => fragmentsOf b inside
  | reference _ front r blanks _ _ => keptOf front ++ [.dropped r blanks]

/-- The rules that are kept. -/
def kept : Part → List Rule
  | block b _ _ => b.piece.rule?.toList
  | _ => []

/-- The rules that are dropped, or become part of something that is no rule. -/
def dropped : Part → List Rule
  | absorbing b _ _ _ _ | reference b _ _ _ _ _ => b.piece.rule?.toList
  | _ => []

theorem textOf_fragmentsOf {b : Block} {inside : List Fragment} (h : textOf inside = b.body) :
    textOf (fragmentsOf b inside) = b.text := by
  rw [fragmentsOf, Fragment.textOf_append, Fragment.textOf_append, Fragment.textOf_keptOf]
  show b.lead ++ b.prelude ++ '\x7b' :: textOf inside ++ ['\x7d'] = b.text
  rw [h]
  rfl

theorem textOf_reference {b : Block} {front : Text} {r : ReferenceBlock} {blanks : Text}
    (hsplit : b.lead ++ b.prelude = front ++ (r.opening ++ r.prelude)) (hbody : b.body = r.body) :
    textOf (keptOf front ++ [.dropped r blanks]) = b.text ++ blanks := by
  rw [Fragment.textOf_append, Fragment.textOf_keptOf, Block.text, hsplit, hbody]
  simp [textOf, Fragment.text, ReferenceBlock.text]

theorem remainsOf_reference (front : Text) (r : ReferenceBlock) (blanks : Text) :
    remainsOf (keptOf front ++ [.dropped r blanks]) = front := by
  rw [Fragment.remainsOf_append, Fragment.remainsOf_keptOf]
  exact List.append_nil front

/-- In front of the brace of a block that stays nothing is dropped. -/
theorem clear_of_cut {b : Block} {inside gs : List Fragment} (hbody : textOf inside = b.body)
    {before : Option Char} (h : Cut before (fragmentsOf b inside ++ gs)) :
    Text.Clear afterReference? before (b.lead ++ b.prelude)
      ('\x7b' :: b.body ++ '\x7d' :: textOf gs) := by
  have hsplit : fragmentsOf b inside ++ gs =
      keptOf (b.lead ++ b.prelude) ++ (.kept '\x7b' :: inside ++ .kept '\x7d' :: gs) := by
    simp [fragmentsOf]
  have htext : textOf (.kept '\x7b' :: inside ++ .kept '\x7d' :: gs) =
      '\x7b' :: b.body ++ '\x7d' :: textOf gs := by
    rw [Fragment.textOf_append, ← hbody]
    rfl
  rw [hsplit] at h
  rw [← htext]
  exact h.clear

theorem endOf_remainsOf_fragmentsOf (b : Block) (inside : List Fragment) (before : Option Char) :
    Text.endOf before (remainsOf (fragmentsOf b inside)) = some '\x7d' := by
  rw [fragmentsOf, Fragment.remainsOf_append]
  exact Text.endOf_concat before _ '\x7d'

end Part

/-! ### Part by part -/

/-- No block is closed in the text. -/
def Unclosed (t : Text) : Prop := '\x7b' ∉ t ∨ '\x7d' ∉ t

instance (t : Text) : Decidable (Unclosed t) := inferInstanceAs (Decidable (_ ∨ _))

theorem Unclosed.ruleBlocks_eq_nil {t : Text} (h : Unclosed t) : ruleBlocks t = [] := by
  obtain ⟨lead, ht, -⟩ := exists_trivia t
  cases hnext : nextPiece? t with
  | none =>
    rw [ruleBlocks, pieces_of_none hnext]
    rfl
  | some found =>
    obtain ⟨piece, rest⟩ := found
    obtain ⟨prelude, body, hskip, -, -, -⟩ | ⟨-, rfl, rfl⟩ := cases_of_nextPiece? hnext
    · have hopen : '\x7b' ∈ t := by
        rw [ht, hskip]
        simp
      have hclose : '\x7d' ∈ t := by
        rw [ht, hskip]
        simp
      rcases h with h | h
      · exact absurd hopen h
      · exact absurd hclose h
    · rw [ruleBlocks, pieces_of_some hnext, pieces_nil]
      rfl

/-- What is asked of the parts of a sheet behind text that was kept and belongs to no block yet, a
text without a block being the end of the sheet. In front of a rule only blanks and comments may
be left; other text has to go into a block that is no rule. -/
def Meets (tail : Text) : Text → List Part → Prop
  | carry, [] => Unclosed tail ∧ (Trivia carry ∨ Unclosed (carry ++ tail))
  | carry, .trivia fs _ :: more => Meets tail (carry ++ remainsOf fs) more
  | carry, .block b _ _ :: more => Trivia carry ∧ b.StaysNested ∧ Meets tail [] more
  | carry, .absorbing b whole _ _ _ :: more =>
    whole.lead ++ whole.prelude = carry ++ (b.lead ++ b.prelude) ∧ whole.piece.rule? = none ∧
      Meets tail [] more
  | carry, .reference _ front _ _ _ _ :: more => Meets tail (carry ++ front) more

theorem Sanitizes.tail {carry tail : Text} {before : Option Char} (h : Cut before (keptOf tail))
    (hmeets : Meets tail carry []) : Sanitizes carry before tail [] [] := by
  obtain ⟨htail, hcarry⟩ := hmeets
  have hstrip : stripReferences before tail = tail := by
    rw [← List.append_nil (keptOf tail)] at h
    have hclear := stripReferences_clear h.clear
    rwa [show textOf [] = [] from rfl, List.append_nil, stripReferences_nil,
      List.append_nil] at hclear
  have hnone : ruleBlocks (carry ++ tail) = [] := by
    rcases hcarry with hcarry | hcarry
    · rw [ruleBlocks_congr (skipTrivia_trivia hcarry tail)]
      exact htail.ruleBlocks_eq_nil
    · exact hcarry.ruleBlocks_eq_nil
  have hdone : Sanitizes carry before tail [] (ruleBlocks tail) := .done (by rw [hstrip, hnone])
  rwa [htail.ruleBlocks_eq_nil] at hdone

/-- A reference block ends with the block that the reader sees. -/
theorem Sanitizes.reference {carry front blanks : Text} {before : Option Char} {b : Block}
    {r : ReferenceBlock} {gs : List Fragment} {kept dropped : List Rule}
    (hsplit : b.lead ++ b.prelude = front ++ (r.opening ++ r.prelude)) (hbody : b.body = r.body)
    (hcut : Cut before (keptOf front ++ .dropped r blanks :: gs))
    (hrun : Sanitizes (carry ++ front) (Text.endOf before front) (textOf gs) kept dropped) :
    Sanitizes carry before (b.text ++ (blanks ++ textOf gs)) kept
      (b.piece.rule?.toList ++ dropped) := by
  have hreference : Cut (Text.endOf before front) (.dropped r blanks :: gs) := by
    have hbehind := hcut.behind
    rwa [Fragment.remainsOf_keptOf] at hbehind
  have htext : textOf (.dropped r blanks :: gs) =
      r.opening ++ r.prelude ++ '\x7b' :: b.body ++ '\x7d' :: (blanks ++ textOf gs) := by
    rw [hbody]
    simp [textOf, Fragment.text, ReferenceBlock.text]
  have hbrace : '\x7b' ∉ r.opening ++ r.prelude := by
    rw [List.mem_append, not_or]
    exact ⟨r.written.plain.1, r.plain.2.1⟩
  have hclear := hcut.clear
  rw [htext] at hclear
  refine .dropped hsplit hbrace hclear (r.opensReference hreference.1) ?_
  rw [Fragment.dropWhile_blanks hreference]
  exact hrun

/-- **A sheet is sanitized part by part**, where the search and the reader cut it alike and its
parts meet what is asked of them. -/
theorem sanitizes_sheet {parts : List Part} {carry tail : Text} {before : Option Char}
    (hcut : Cut before (parts.flatMap Part.fragments ++ keptOf tail))
    (hmeets : Meets tail carry parts) :
    Sanitizes carry before (textOf (parts.flatMap Part.fragments ++ keptOf tail))
      (parts.flatMap Part.kept) (parts.flatMap Part.dropped) := by
  induction parts generalizing carry before with
  | nil =>
    show Sanitizes carry before (textOf (keptOf tail)) [] []
    rw [Fragment.textOf_keptOf]
    exact .tail hcut hmeets
  | cons part more ih =>
    rw [List.flatMap_cons, List.append_assoc] at hcut ⊢
    rw [Fragment.textOf_append]
    have hbehind := hcut.behind
    cases part with
    | trivia fs htrivia =>
      exact .comment htrivia (Fragment.stripReferences_of_cut hcut) (ih hbehind hmeets)
    | block b inside hbody =>
      obtain ⟨hcarry, hnested, hmore⟩ := hmeets
      have hclear := Part.clear_of_cut hbody hcut
      rw [Part.fragments, Part.endOf_remainsOf_fragmentsOf] at hbehind
      rw [Part.fragments, Part.textOf_fragmentsOf hbody]
      exact .skip hcarry (.kept hclear hnested (ih hbehind hmore))
    | absorbing b whole inside hbody hstripped =>
      obtain ⟨hfront, hnone, hmore⟩ := hmeets
      have hclear := Part.clear_of_cut hbody hcut
      rw [Part.fragments, Part.endOf_remainsOf_fragmentsOf] at hbehind
      rw [Part.fragments, Part.textOf_fragmentsOf hbody]
      exact .absorbed hclear hfront hstripped hnone (ih hbehind hmore)
    | reference b front r blanks hsplit hbody =>
      have hmore : Meets tail (carry ++ front) more := hmeets
      rw [Part.fragments, Part.remainsOf_reference] at hbehind
      rw [Part.fragments, List.append_assoc] at hcut
      rw [Part.fragments, Part.textOf_reference hsplit hbody, List.append_assoc]
      exact .reference hsplit hbody hcut (ih hbehind hmore)

/-- The rules that are kept are all that is left of a sheet, and a selector that no dropped rule has
reads as before. -/
theorem rule?_sanitize_sheet (policy : DuplicatePolicy) {s tail : Text} {parts : List Part}
    (hs : unquote s = textOf (parts.flatMap Part.fragments ++ keptOf tail))
    (hcut : Cut none (parts.flatMap Part.fragments ++ keptOf tail)) (hmeets : Meets tail [] parts) :
    (parse policy (sanitize s)).rules = addBlocks policy [] (parts.flatMap Part.kept) ∧
      ∀ selector, (∀ d ∈ parts.flatMap Part.dropped, d.selector ≠ selector) →
        (parse policy (sanitize s)).rule? selector = (parse policy (unquote s)).rule? selector := by
  have hsanitizes := sanitizes_sheet hcut hmeets
  rw [← hs] at hsanitizes
  exact ⟨parse_sanitize policy hsanitizes, fun _ hne => rule?_sanitize policy hsanitizes hne⟩

end StyleSnapshot
