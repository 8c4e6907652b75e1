import StyleSnapshot.Proofs.Dictionary
import StyleSnapshot.Proofs.Offsets.Closing
import StyleSnapshot.Proofs.Offsets.Comments
import StyleSnapshot.Proofs.Offsets.Snapshot

/-! Stylesheets by offsets.

A round of reading begins at an index, passes over what is no block, and takes in the block that is
found behind it; the rule of a selector is looked up by its position. A round that goes on has taken
in the first piece of what stood behind the index (`parseRound_cases`), so that a stylesheet comes
out as it is read piece by piece. `stylesheet_loops_terminate` brings the loops together. -/
namespace StyleSnapshot.Offsets

open Text (byteLength)
open Stylesheet (skipTrivia stripComments selectorOf addRule pieces declaration?)

/-! ### Selectors -/

/-- The offset at which a character stands last in a text. -/
def lastPlace? (c : Char) : Text → Option Nat
  | [] => none
  | d :: t =>
    match lastPlace? c t with
    | some n => some (d.utf8Size + n)
    | none => if d = c then some 0 else none

/-- The part of a prelude behind its last stray closing brace, trimmed. -/
def selectorFrom (prelude : Text) : Except Fault Text :=
  match lastPlace? '\x7d' prelude with
  | none => .ok (Text.trim prelude)
  | some stray => (suffix prelude (stray + 1)).map Text.trim

theorem lastPlace?_of_not_mem {c : Char} {t : Text} (h : c ∉ t) : lastPlace? c t = none := by
  induction t with
  | nil => rfl
  | cons d t ih =>
    rw [List.mem_cons, not_or] at h
    rw [lastPlace?, ih h.2]
    exact if_neg (Ne.symm h.1)

theorem lastPlace?_append {c : Char} {behind : Text} (h : c ∉ behind) (front : Text) :
    lastPlace? c (front ++ c :: behind) = some (byteLength front) := by
  induction front with
  | nil => rw [List.nil_append, lastPlace?, lastPlace?_of_not_mem h]; exact if_pos rfl
  | cons d front ih => rw [List.cons_append, lastPlace?, ih, byteLength]

theorem exists_last_of_mem {c : Char} {t : Text} (h : c ∈ t) :
    ∃ front behind, t = front ++ c :: behind ∧ c ∉ behind := by
  obtain ⟨behind, front, hsplit, hbehind⟩ := List.eq_append_cons_of_mem (List.mem_reverse.2 h)
  refine ⟨front.reverse, behind.reverse, ?_, fun hmem => hbehind (List.mem_reverse.1 hmem)⟩
  rw [← List.reverse_reverse t, hsplit]
  simp

theorem selectorFrom_eq (prelude : Text) : selectorFrom prelude = .ok (selectorOf prelude) := by
  by_cases hstray : '\x7d' ∈ prelude
  · obtain ⟨front, behind, rfl, hbehind⟩ := exists_last_of_mem hstray
    rw [selectorFrom, lastPlace?_append hbehind, Stylesheet.selectorOf_behind hbehind]
    simp only [suffix_behind (show Text.Single '\x7d' by decide)]
    rfl
  · rw [selectorFrom, lastPlace?_of_not_mem hstray, Stylesheet.selectorOf_of_not_mem hstray]

/-! ### Rules by position -/

/-- The rules read so far, and the positions at which the selectors have theirs. -/
structure RuleTable where
  rules : List Rule
  positions : Dictionary Nat

namespace RuleTable

/-- The table with one more block. -/
def add (policy : DuplicatePolicy) (new : Rule) (table : RuleTable) : Except Fault RuleTable :=
  match table.positions.get? new.selector with
  | some position =>
    match table.rules[position]? with
    | none => .error .outside
    | some r => .ok { table with rules := table.rules.set position (r.extend policy new.declarations) }
  | none => .ok ⟨table.rules ++ [new], table.positions.insert new.selector table.rules.length⟩

/-- The position of a selector is that of its first rule. -/
def Indexed (table : RuleTable) : Prop :=
  ∀ selector, table.positions.get? selector = (table.rules.map (·.selector)).findIdx? (· = selector)

/-- A position that is looked up is that of a rule. -/
theorem add_eq {table : RuleTable} (h : table.Indexed) (policy : DuplicatePolicy) (new : Rule) :
    ∃ next, table.add policy new = .ok next ∧ next.rules = addRule policy new table.rules ∧
      next.Indexed := by
  have hposition := h new.selector
  have hselectors := Stylesheet.selectors_addRule policy new table.rules
  rw [add]
  cases hfind : (table.rules.map (·.selector)).findIdx? (· = new.selector) with
  | some position =>
    obtain ⟨r, hr, hadd⟩ := Stylesheet.addRule_of_findIdx? policy hfind
    have hmem : new.selector ∈ table.rules.map (·.selector) := by
      obtain ⟨hlt, heq, -⟩ := List.findIdx?_eq_some_iff_getElem.1 hfind
      exact of_decide_eq_true heq ▸ List.getElem_mem hlt
    rw [hposition, hfind]
    simp only [hr]
    refine ⟨_, rfl, hadd.symm, fun selector => ?_⟩
    rw [hadd, if_pos hmem] at hselectors
    rw [hselectors]
    exact h selector
  | none =>
    have hnew : new.selector ∉ table.rules.map (·.selector) := fun hmem => by
      have := List.findIdx?_eq_none_iff.1 hfind _ hmem
      simp at this
    rw [hposition, hfind]
    refine ⟨_, rfl, (Stylesheet.addRule_of_new hnew).symm, fun selector => ?_⟩
    rw [Dictionary.get?_insert, h selector, List.map_append, List.findIdx?_append, List.length_map]
    by_cases hselector : selector = new.selector
    · subst hselector
      simp [hfind]
    · simp [hselector, Ne.symm hselector]

theorem indexed_empty : Indexed ⟨[], ∅⟩ := fun _ => rfl

end RuleTable

/-! ### Blocks -/

/-- What is read of a stylesheet up to an index. -/
structure Parsing where
  index : Nat
  table : RuleTable
  unparsed : List Text

/-- The stylesheet that is read so far. -/
def Parsing.sheet (s : Parsing) : Stylesheet := ⟨s.table.rules, s.unparsed⟩

/-- Takes in the block that begins at an offset, with the offsets of its braces. -/
def readBlock (policy : DuplicatePolicy) (css : Text) (s : Parsing) (start opening close : Nat) :
    Except Fault Parsing := do
  let prelude ← slice css start opening
  let selector ← selectorFrom prelude
  let body ← slice css (opening + 1) close
  if selector.head? = some '@' ∨ '\x7b' ∈ body then
    let block ← slice css start (close + 1)
    return { s with index := close + 1, unparsed := s.unparsed ++ [Text.collapse block] }
  else if selector = [] then return { s with index := close + 1 }
  else
    let stripped ← removeComments body
    let table ← s.table.add policy ⟨selector, (stripped.splitOn ';').filterMap declaration?⟩
    return { s with index := close + 1, table := table }

/-- Passes over what is no block, and takes in the next block. A block that is never closed is kept
as it stands. -/
def parseRound (policy : DuplicatePolicy) (css : Text) (s : Parsing) :
    Except Fault (Outcome Parsing Stylesheet) := do
  let start ← skip css s.index
  if byteLength css ≤ start then return .done s.sheet
  else
    let rest ← suffix css start
    if '\x7b' ∈ rest then
      let opening := start + byteLength (rest.takeWhile (· ≠ '\x7b'))
      match ← findClosing .literal Brackets.braces.utf8 (Text.utf8 css) opening with
      | none => return .done ⟨s.table.rules, s.unparsed ++ [Text.collapse rest]⟩
      | some close => (readBlock policy css s start opening close).map .again
    else return .done s.sheet

/-- The offset behind a block. -/
theorem byteLength_block (front prelude body : Text) :
    byteLength (front ++ (prelude ++ '\x7b' :: body ++ ['\x7d'])) =
      byteLength front + byteLength prelude + 1 + byteLength body + 1 := by
  have hopen : '\x7b'.utf8Size = 1 := rfl
  have hclose : '\x7d'.utf8Size = 1 := rfl
  simp only [Text.byteLength_append, byteLength, hopen, hclose]
  omega

/-- The offsets of a block are told by its parts. -/
theorem readBlock_append {s : Parsing} (h : s.table.Indexed) (policy : DuplicatePolicy)
    (front prelude body rest : Text) :
    ∃ next, readBlock policy (front ++ (prelude ++ '\x7b' :: (body ++ '\x7d' :: rest))) s
        (byteLength front) (byteLength front + byteLength prelude)
        (byteLength front + byteLength prelude + 1 + byteLength body) = .ok next ∧
      next.index = byteLength (front ++ (prelude ++ '\x7b' :: body ++ ['\x7d'])) ∧
      next.table.Indexed ∧ next.sheet = Stylesheet.add policy s.sheet (.ofBlock prelude body) := by
  have hprelude := slice_append front prelude ('\x7b' :: (body ++ '\x7d' :: rest))
  have hbody := slice_behind (c := '\x7b') (by decide) (front ++ prelude) body ('\x7d' :: rest)
  rw [Text.byteLength_append, List.append_assoc] at hbody
  have hblock := slice_append front (prelude ++ '\x7b' :: body ++ ['\x7d']) rest
  rw [← Text.byteLength_append, byteLength_block, show
    front ++ (prelude ++ '\x7b' :: body ++ ['\x7d'] ++ rest) =
      front ++ (prelude ++ '\x7b' :: (body ++ '\x7d' :: rest)) by simp] at hblock
  have hindex := (byteLength_block front prelude body).symm
  simp only [readBlock, hprelude, hbody, hblock, selectorFrom_eq, bind, Except.bind]
  by_cases hnested : (selectorOf prelude).head? = some '@' ∨ '\x7b' ∈ body
  · refine ⟨_, if_pos hnested, hindex, h, ?_⟩
    rw [Stylesheet.Piece.ofBlock, if_pos hnested]
    rfl
  · rw [if_neg hnested]
    by_cases hanonymous : selectorOf prelude = []
    · refine ⟨_, if_pos hanonymous, hindex, h, ?_⟩
      rw [Stylesheet.Piece.ofBlock, if_neg hnested, if_pos hanonymous]
      rfl
    · obtain ⟨table, hadd, hrules, hindexed⟩ := RuleTable.add_eq h policy
        ⟨selectorOf prelude, Stylesheet.declarations body⟩
      rw [if_neg hanonymous, removeComments_eq]
      rw [Stylesheet.declarations] at hadd
      simp only [hadd]
      refine ⟨_, rfl, hindex, hindexed, ?_⟩
      rw [Stylesheet.Piece.ofBlock, if_neg hnested, if_neg hanonymous]
      simp only [Parsing.sheet, Stylesheet.add, hrules]

/-! ### Rounds of reading -/

/-- The brace that closes the one behind a text. -/
theorem findClosing_brace (front inside : Text) :
    findClosing .literal Brackets.braces.utf8 (Text.utf8 (front ++ '\x7b' :: inside)) (byteLength front) =
      .ok ((closingFrom? 0 inside).map fun n => byteLength front + 1 + byteLength (inside.take n)) := by
  rw [findClosing_eq List.not_mem_nil]
  exact congrArg Except.ok (closingAt?_utf8 singles_literal singles_braces (by decide) front inside)

section Round
variable (policy : DuplicatePolicy) {front behind : Text} {s : Parsing}

/-- Without a brace there is nothing more to read. -/
theorem parseRound_no_brace (hindex : s.index = byteLength front) (h : '\x7b' ∉ skipTrivia behind) :
    parseRound policy (front ++ behind) s = .ok (.done s.sheet) := by
  obtain ⟨lead, hlead, hskip⟩ := skip_append front behind
  have hrest : suffix (front ++ behind) (byteLength (front ++ lead)) = .ok (skipTrivia behind) := by
    conv_lhs => rw [hlead, ← List.append_assoc, suffix_append]
  rw [← hindex] at hskip
  simp only [parseRound, hskip, hrest, bind, Except.bind]
  rw [if_neg h]
  split <;> rfl

/-- Behind a prelude and its brace a block is taken in, if it is closed. -/
theorem parseRound_brace {prelude inside : Text} (hindex : s.index = byteLength front)
    (hsplit : skipTrivia behind = prelude ++ '\x7b' :: inside) (hprelude : '\x7b' ∉ prelude) :
    ∃ lead, behind = lead ++ (prelude ++ '\x7b' :: inside) ∧
      parseRound policy (front ++ behind) s =
        match closingFrom? 0 inside with
        | none => .ok (.done ⟨s.table.rules, s.unparsed ++ [Text.collapse (skipTrivia behind)]⟩)
        | some n =>
          (readBlock policy (front ++ lead ++ (prelude ++ '\x7b' :: inside)) s (byteLength (front ++ lead))
            (byteLength (front ++ lead) + byteLength prelude)
            (byteLength (front ++ lead) + byteLength prelude + 1 + byteLength (inside.take n))).map
              .again := by
  obtain ⟨lead, hlead, hskip⟩ := skip_append front behind
  rw [hsplit] at hlead
  rw [← hindex] at hskip
  refine ⟨lead, hlead, ?_⟩
  have htext : front ++ behind = front ++ lead ++ (prelude ++ '\x7b' :: inside) := by
    rw [List.append_assoc, ← hlead]
  have hinside : ¬ byteLength (front ++ behind) ≤ byteLength (front ++ lead) := by
    have hpos : 0 < byteLength (prelude ++ '\x7b' :: inside) := byteLength_pos (by simp)
    rw [htext, Text.byteLength_append (front ++ lead)]
    omega
  have hrest : suffix (front ++ behind) (byteLength (front ++ lead)) =
      .ok (prelude ++ '\x7b' :: inside) := by
    rw [htext, suffix_append]
  have hclose := findClosing_brace (front ++ lead ++ prelude) inside
  rw [List.append_assoc (front ++ lead), ← htext, Text.byteLength_append (front ++ lead)] at hclose
  have hbrace : '\x7b' ∈ prelude ++ '\x7b' :: inside := by simp
  simp only [parseRound, hskip, bind, Except.bind, if_neg hinside, hrest, if_pos hbrace,
    takeWhile_brace hprelude, hclose]
  cases closingFrom? 0 inside with
  | none => rw [hsplit]; rfl
  | some n => rw [htext]; rfl

end Round

/-- The blocks from the index on make the result, once they are added to what is read. -/
structure Reads (policy : DuplicatePolicy) (css : Text) (s : Parsing) (result : Stylesheet) : Prop where
  indexed : s.table.Indexed
  rest : ∃ front behind, css = front ++ behind ∧ s.index = byteLength front ∧
    result = (pieces behind).foldl (Stylesheet.add policy) s.sheet

/-- A round that goes on has taken in a piece. -/
theorem parseRound_cases {policy : DuplicatePolicy} {css : Text} {s : Parsing} {result : Stylesheet}
    (h : Reads policy css s result) :
    parseRound policy css s = .ok (.done result) ∨
      ∃ next, parseRound policy css s = .ok (.again next) ∧ Forward css s.index next.index ∧
        Reads policy css next result := by
  obtain ⟨hindexed, front, behind, rfl, hindex, rfl⟩ := h
  by_cases hbrace : '\x7b' ∈ skipTrivia behind
  · obtain ⟨prelude, inside, hsplit, hprelude⟩ := List.eq_append_cons_of_mem hbrace
    obtain ⟨lead, hlead, hround⟩ := parseRound_brace policy hindex hsplit hprelude
    rw [hround]
    cases hn : closingFrom? 0 inside with
    | none =>
      rw [Stylesheet.pieces_of_some (Stylesheet.nextPiece?_of_open hsplit hprelude hn),
        Stylesheet.pieces_nil]
      exact .inl rfl
    | some n =>
      have hpieces := Stylesheet.pieces_of_some (Stylesheet.nextPiece?_of_closed hsplit hprelude hn)
      obtain ⟨body, rest, rfl, rfl, -⟩ := eq_of_closingFrom? hn
      have hrest : (body ++ '\x7d' :: rest).drop (body.length + 1) = rest :=
        List.drop_length_add_append 1
      rw [List.take_left, hrest] at hpieces
      obtain ⟨next, hread, hnext, hnextIndexed, hsheet⟩ :=
        readBlock_append hindexed policy (front ++ lead) prelude body rest
      have htext : front ++ behind =
          front ++ lead ++ (prelude ++ '\x7b' :: body ++ ['\x7d']) ++ rest := by
        rw [hlead]
        simp
      have hforward : Forward (front ++ behind) s.index next.index := by
        rw [Forward, hindex, hnext, htext, Text.byteLength_append _ rest, byteLength_block,
          Text.byteLength_append front lead]
        omega
      refine .inr ⟨next, ?_, hforward, hnextIndexed, _, rest, htext, hnext, ?_⟩
      · simp only [List.take_left, hread]
        rfl
      · rw [hpieces, List.foldl_cons, hsheet]
  · rw [Stylesheet.pieces_of_none (Stylesheet.nextPiece?_of_no_brace hbrace)]
    exact .inl (parseRound_no_brace policy hindex hbrace)

/-- A stylesheet is read in rounds that move forward. -/
theorem runs_parseRound (policy : DuplicatePolicy) (css : Text) :
    Runs (parseRound policy css) (fun s next => Forward css s.index next.index) ⟨0, ⟨[], ∅⟩, []⟩
      (Stylesheet.parse policy css) :=
  runs_of_invariant (fun s : Parsing => byteLength css - s.index) (fun _ _ h => h.left_lt)
    (fun _ _ => parseRound_cases) ⟨RuleTable.indexed_empty, [], css, rfl, rfl, rfl⟩

/-! ### Rounds of stripping -/

/-- A text, and the offset from which on reference blocks are looked for in it. -/
structure Stripping where
  text : Text
  cursor : Nat

/-- How much there is left to look at. -/
def Stripping.left (s : Stripping) : Nat := byteLength s.text - s.cursor

/-- Takes out the next reference block, or goes on behind what looks like one. -/
def referenceRound (s : Stripping) : Except Fault (Outcome Stripping Text) :=
  (stripRound s.text s.cursor).map fun
    | none => .done s.text
    | some (text, cursor) => .again ⟨text, cursor⟩

/-- The text is stripped up to the offset, and stripping the rest makes the result. -/
def Strips (s : Stripping) (result : Text) : Prop :=
  ∃ front behind, s.text = front ++ behind ∧ s.cursor = byteLength front ∧
    result = front ++ Snapshot.stripReferences (Text.endOf none front) behind

/-- A round that goes on leaves less to look at. -/
theorem referenceRound_cases {s : Stripping} {result : Text} (h : Strips s result) :
    referenceRound s = .ok (.done result) ∨
      ∃ next, referenceRound s = .ok (.again next) ∧
        (next.cursor ≤ byteLength next.text ∧ next.left < s.left) ∧ Strips next result := by
  obtain ⟨text, cursor⟩ := s
  obtain ⟨front, behind, htext, hcursor, rfl⟩ := h
  simp only at htext hcursor
  subst htext hcursor
  obtain ⟨round, hround, hrounded⟩ := stripRound_append front behind
  simp only [referenceRound, hround]
  cases round with
  | none => exact .inl (by rw [show Snapshot.stripReferences _ behind = behind from hrounded]; rfl)
  | some found =>
    obtain ⟨kept, rest, htext, hcursor, hshorter, hstrip⟩ := hrounded
    have hwithin : found.2 ≤ byteLength found.1 := by
      rw [htext, hcursor, Text.byteLength_append (front ++ kept)]
      exact Nat.le_add_right _ _
    have hless : byteLength found.1 - found.2 < byteLength (front ++ behind) - byteLength front := by
      rw [htext, hcursor, Text.byteLength_append (front ++ kept), Text.byteLength_append front behind]
      omega
    refine .inr ⟨⟨found.1, found.2⟩, rfl, ⟨hwithin, hless⟩, front ++ kept, rest, htext, hcursor, ?_⟩
    rw [hstrip, List.append_assoc]

/-- Reference blocks are taken out in rounds that leave less to look at. -/
theorem runs_referenceRound (css : Text) :
    Runs referenceRound (fun s next => next.cursor ≤ byteLength next.text ∧ next.left < s.left) ⟨css, 0⟩
      (Snapshot.stripReferences none css) :=
  runs_of_invariant Stripping.left (fun _ _ h => h.2) (fun _ _ => referenceRound_cases) ⟨[], css, rfl, rfl, rfl⟩

/-! ### All loops -/

/-- **The loops over a stylesheet come to their ends.** No round has a fault, whatever the text: each
one cuts it within its bounds and between characters. A round of reading that goes on moves the index
forward within the text, and so does a round that passes over a comment, wherever it begins. A
comment that is taken out of a body leaves less of it, and a reference block that is taken out of a
text, or passed over, leaves less to look at. What comes out is what a reader of characters finds. -/
theorem stylesheet_loops_terminate (policy : DuplicatePolicy) (t : Text) :
    Runs (parseRound policy t) (fun s next => Forward t s.index next.index) ⟨0, ⟨[], ∅⟩, []⟩
        (Stylesheet.parse policy t) ∧
      (∀ front, ∃ lead, t = lead ++ skipTrivia t ∧ Runs (skipRound (front ++ t)) (Forward (front ++ t))
        (byteLength front) (byteLength (front ++ lead))) ∧
      Runs commentRound (fun s next => byteLength next.2 < byteLength s.2) ([], t) (stripComments t) ∧
      Runs referenceRound (fun s next => next.cursor ≤ byteLength next.text ∧ next.left < s.left) ⟨t, 0⟩
        (Snapshot.stripReferences none t) :=
  ⟨runs_parseRound policy t, fun front => runs_skipRound front t, runs_commentRound t,
    runs_referenceRound t⟩

end StyleSnapshot.Offsets
