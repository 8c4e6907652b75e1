import StyleSnapshot.Proofs.Stylesheet.Blocks
import StyleSnapshot.Proofs.Stylesheet.Policies

/-! Stylesheets one behind the other.

A stylesheet is complete when nothing but blanks and closed comments is left behind its last
closed block. What a complete stylesheet is read as does not depend on what follows, and it
leaves no mark on how that is read, so the pieces of both are those of each
(`pieces_append`). Their rules meet in one list: folding in the rules of the second, each
selector once, is folding in its blocks one by one (`addBlocks_addBlocks`). -/
namespace StyleSnapshot.Stylesheet

/-! ### What is left behind the last block -/

/-- What stands behind the first block of a text, if that block is closed. -/
def behindBlock? (t : Text) : Option Text :=
  match (skipTrivia t).dropWhile (· ≠ '\x7b') with
  | [] => none
  | _ :: inside => (closingFrom? 0 inside).map fun n => inside.drop (n + 1)

theorem behindBlock?_of_no_brace {t : Text} (h : '\x7b' ∉ skipTrivia t) : behindBlock? t = none := by
  simp only [behindBlock?, dropWhile_no_brace h]

theorem behindBlock?_of_brace {t prelude inside : Text}
    (h : skipTrivia t = prelude ++ '\x7b' :: inside) (hbrace : '\x7b' ∉ prelude) :
    behindBlock? t = (closingFrom? 0 inside).map fun n => inside.drop (n + 1) := by
  simp only [behindBlock?, h, dropWhile_brace hbrace]

theorem behindBlock?_congr {t u : Text} (h : skipTrivia t = skipTrivia u) :
    behindBlock? t = behindBlock? u := by
  simp only [behindBlock?, h]

/-- A closed block is all that stands in front of the text behind it. -/
theorem behindBlock?_eq_some_iff {t rest : Text} :
    behindBlock? t = some rest ↔ ∃ b : Block, t = b.text ++ rest := by
  constructor
  · intro h
    by_cases hmem : '\x7b' ∈ skipTrivia t
    · obtain ⟨prelude, inside, hskip, hprelude⟩ := List.eq_append_cons_of_mem hmem
      rw [behindBlock?_of_brace hskip hprelude] at h
      obtain ⟨n, hclose, rfl⟩ := Option.map_eq_some_iff.1 h
      exact exists_block_of_closed hskip hprelude hclose
    · rw [behindBlock?_of_no_brace hmem] at h
      exact absurd h.symm (Option.some_ne_none rest)
  · rintro ⟨b, rfl⟩
    rw [behindBlock?_of_brace (skipTrivia_block b rest) b.no_brace, closingFrom?_body b.balanced]
    simp

theorem behindBlock?_length {t rest : Text} (h : behindBlock? t = some rest) :
    rest.length < t.length := by
  obtain ⟨b, rfl⟩ := behindBlock?_eq_some_iff.1 h
  simp only [Block.text, List.length_append, List.length_cons]
  omega

/-- What is left of a text behind its last closed block. -/
def leftover (t : Text) : Text :=
  match _h : behindBlock? t with
  | none => t
  | some rest => leftover rest
termination_by t.length
decreasing_by exact behindBlock?_length _h

theorem leftover_of_none {t : Text} (h : behindBlock? t = none) : leftover t = t := by
  rw [leftover]
  split
  · rfl
  · next h' => exact absurd (h'.symm.trans h) (Option.some_ne_none _)

theorem leftover_of_some {t rest : Text} (h : behindBlock? t = some rest) :
    leftover t = leftover rest := by
  rw [leftover]
  split
  · next h' => exact absurd (h.symm.trans h') (Option.some_ne_none _)
  · next h' => rw [Option.some.inj (h.symm.trans h')]

/-- Reading ends with nothing but blanks and closed comments left: no other text, no block
that is not closed, no comment that is not. -/
def Complete (t : Text) : Prop := Trivia (leftover t)

theorem complete_block (b : Block) {t : Text} : Complete (b.text ++ t) ↔ Complete t := by
  rw [Complete, leftover_of_some (behindBlock?_eq_some_iff.2 ⟨b, rfl⟩), Complete]

theorem behindBlock?_of_trivia {w : Text} (h : Trivia w) (t : Text) :
    behindBlock? (w ++ t) = behindBlock? t := behindBlock?_congr (skipTrivia_trivia h t)

theorem skipTrivia_of_trivia {w : Text} (h : Trivia w) : skipTrivia w = [] := by
  have hskip := skipTrivia_trivia h []
  rwa [List.append_nil, show skipTrivia [] = [] from skipTrivia_of_none rfl] at hskip

theorem Trivia.complete {w : Text} (h : Trivia w) : Complete w := by
  have hnone : behindBlock? w = none := behindBlock?_of_no_brace (by simp [skipTrivia_of_trivia h])
  rwa [Complete, leftover_of_none hnone]

/-- A complete text is closed blocks and, behind them, blanks and closed comments. -/
theorem Complete.induction {motive : Text → Prop} (trivia : ∀ w, Trivia w → motive w)
    (block : ∀ (b : Block) (t : Text), Complete t → motive t → motive (b.text ++ t)) {t : Text}
    (h : Complete t) : motive t := by
  fun_induction leftover t with
  | case1 t hnone => exact trivia t (leftover_of_none hnone ▸ h)
  | case2 t rest hsome ih =>
    obtain ⟨b, rfl⟩ := behindBlock?_eq_some_iff.1 hsome
    have hrest : Complete rest := (complete_block b).1 h
    exact block b rest hrest (ih hrest)

theorem Complete.append {a b : Text} (ha : Complete a) (hb : Complete b) : Complete (a ++ b) := by
  refine ha.induction (motive := fun a => Complete (a ++ b)) (fun w hw => ?_) fun block t _ ih => ?_
  · cases hbehind : behindBlock? b with
    | none =>
      rw [Complete, leftover_of_none hbehind] at hb
      exact (hw.append hb).complete
    | some rest =>
      rw [Complete, leftover_of_some hbehind] at hb
      rwa [Complete, leftover_of_some ((behindBlock?_of_trivia hw b).trans hbehind)]
  · rw [List.append_assoc]
    exact (complete_block block).2 ih

/-- Behind a complete text reading begins anew. -/
theorem pieces_append {a : Text} (h : Complete a) (b : Text) :
    pieces (a ++ b) = pieces a ++ pieces b := by
  refine h.induction (motive := fun a => pieces (a ++ b) = pieces a ++ pieces b)
    (fun w hw => ?_) fun block t _ ih => ?_
  · have hnone : nextPiece? w = none := nextPiece?_of_no_brace (by simp [skipTrivia_of_trivia hw])
    rw [pieces_of_none hnone, List.nil_append]
    exact pieces_congr (skipTrivia_trivia hw b)
  · rw [List.append_assoc, pieces_block, pieces_block, ih, List.cons_append]

/-! ### Folding rules into rules -/

section Fold
variable {policy : DuplicatePolicy} {r new : Rule} {rules blocks : List Rule}

/-- Two blocks for one selector are one that declares what they declare together. -/
theorem addRule_addRule_of_eq (h : r.selector = new.selector) (rules : List Rule) :
    addRule policy new (addRule policy r rules) =
      addRule policy (r.extend policy new.declarations) rules := by
  have hextend (x : Rule) : (x.extend policy r.declarations).extend policy new.declarations =
      x.extend policy (r.extend policy new.declarations).declarations := by
    cases policy <;> simp [Rule.extend]
  induction rules with
  | nil => simp [addRule, h]
  | cons x rules ih =>
    by_cases hx : x.selector = r.selector
    · simp [addRule, selector_extend, hx, ← h, hextend]
    · simp [addRule, selector_extend, hx, ← h, ih]

/-- A block for a selector that has its rule may come before or after a block for another. -/
theorem addRule_addRule_comm (hne : r.selector ≠ new.selector)
    (hmem : new.selector ∈ rules.map (·.selector)) :
    addRule policy new (addRule policy r rules) = addRule policy r (addRule policy new rules) := by
  induction rules with
  | nil => simp at hmem
  | cons x rules ih =>
    by_cases hx : x.selector = new.selector
    · simp [addRule, selector_extend, hx, hne.symm]
    · have hrest : new.selector ∈ rules.map (·.selector) := by
        simpa [Ne.symm hx] using hmem
      by_cases hr : x.selector = r.selector
      · simp [addRule, selector_extend, hr, hne]
      · simp [addRule, hx, hr, ih hrest]

theorem addRule_addBlocks_comm (hmem : new.selector ∈ rules.map (·.selector))
    (hnew : new.selector ∉ blocks.map (·.selector)) :
    addRule policy new (addBlocks policy rules blocks) =
      addBlocks policy (addRule policy new rules) blocks := by
  induction blocks generalizing rules with
  | nil => rfl
  | cons r blocks ih =>
    rw [List.map_cons, List.mem_cons, not_or] at hnew
    have hmem' : new.selector ∈ (addRule policy r rules).map (·.selector) := by
      rw [selectors_addRule]
      split
      · exact hmem
      · exact List.mem_append_left _ hmem
    show addRule policy new (addBlocks policy (addRule policy r rules) blocks) =
      addBlocks policy (addRule policy r (addRule policy new rules)) blocks
    rw [ih hmem' hnew.2, addRule_addRule_comm (Ne.symm hnew.1) hmem]

/-- Folding in what rules have become with one more block is folding in that block last. -/
theorem addBlocks_addRule (h : (blocks.map (·.selector)).Nodup) (rules : List Rule) :
    addBlocks policy rules (addRule policy new blocks) =
      addRule policy new (addBlocks policy rules blocks) := by
  induction blocks generalizing rules with
  | nil => rfl
  | cons r blocks ih =>
    obtain ⟨hr, hblocks⟩ := List.nodup_cons.1 h
    by_cases hs : r.selector = new.selector
    · have hmem : new.selector ∈ (addRule policy r rules).map (·.selector) := by
        rw [selectors_addRule, ← hs]
        split
        · next hmem => exact hmem
        · simp
      have hadd : addRule policy new (r :: blocks) = r.extend policy new.declarations :: blocks := by
        simp only [addRule, hs, if_true]
      rw [hadd]
      show addBlocks policy (addRule policy (r.extend policy new.declarations) rules) blocks =
        addRule policy new (addBlocks policy (addRule policy r rules) blocks)
      rw [addRule_addBlocks_comm hmem (hs ▸ hr), addRule_addRule_of_eq hs]
    · have hadd : addRule policy new (r :: blocks) = r :: addRule policy new blocks := by
        simp only [addRule, hs, if_false]
      rw [hadd]
      exact ih hblocks (addRule policy r rules)

theorem nodup_addBlocks (policy : DuplicatePolicy) (blocks : List Rule) :
    ((addBlocks policy [] blocks).map (·.selector)).Nodup := by
  rw [selectors_addBlocks]
  exact Text.nodup_eraseDups _

/-- Blocks may be folded together before they are folded in. -/
theorem addBlocks_addBlocks (policy : DuplicatePolicy) (rules blocks : List Rule) :
    addBlocks policy rules (addBlocks policy [] blocks) = addBlocks policy rules blocks := by
  induction blocks using List.reverseRecOn with
  | nil => rfl
  | append_singleton blocks new ih =>
    have hlast (rules : List Rule) : addBlocks policy rules (blocks ++ [new]) =
        addRule policy new (addBlocks policy rules blocks) := by
      simp [addBlocks]
    rw [hlast, hlast, addBlocks_addRule (nodup_addBlocks policy blocks), ih]

/-- What a rule becomes where further rules are folded in, of which one at most has its
selector. -/
def extendedBy (policy : DuplicatePolicy) (later : List Rule) (r : Rule) : Rule :=
  match later.find? (·.selector = r.selector) with
  | none => r
  | some new => r.extend policy new.declarations

theorem extendedBy_of_not_mem (h : r.selector ∉ blocks.map (·.selector)) :
    extendedBy policy blocks r = r := by
  have hnone : blocks.find? (·.selector = r.selector) = none :=
    List.find?_eq_none.2 fun x hx hs => h (List.mem_map.2 ⟨x, hx, of_decide_eq_true hs⟩)
  simp only [extendedBy, hnone]

theorem addRule_of_mem (hdistinct : (rules.map (·.selector)).Nodup)
    (hmem : new.selector ∈ rules.map (·.selector)) : addRule policy new rules =
      rules.map fun r => if r.selector = new.selector then r.extend policy new.declarations else r := by
  induction rules with
  | nil => simp at hmem
  | cons x rules ih =>
    obtain ⟨hx, hrules⟩ := List.nodup_cons.1 hdistinct
    by_cases hs : x.selector = new.selector
    · have hrest : ∀ r ∈ rules,
          (if r.selector = new.selector then r.extend policy new.declarations else r) = r :=
        fun r hr => if_neg fun hr' => hx (List.mem_map.2 ⟨r, hr, hr'.trans hs.symm⟩)
      simp only [addRule, hs, if_true, List.map_cons, List.map_congr_left hrest, List.map_id']
    · have hrest : new.selector ∈ rules.map (·.selector) := by
        simpa [Ne.symm hs] using hmem
      simp [addRule, hs, ih hrules hrest]

/-- Rules that are folded in one by one extend the rules of their selectors, and those without
one come last, as they stand. -/
theorem addBlocks_of_distinct (hrules : (rules.map (·.selector)).Nodup)
    (hblocks : (blocks.map (·.selector)).Nodup) : addBlocks policy rules blocks =
      rules.map (extendedBy policy blocks) ++
        blocks.filter fun r => r.selector ∉ rules.map (·.selector) := by
  induction blocks generalizing rules with
  | nil =>
    have hnone : ∀ r ∈ rules, extendedBy policy [] r = r := fun _ _ => rfl
    rw [List.map_congr_left hnone, List.map_id', List.filter_nil, List.append_nil]
    rfl
  | cons new blocks ih =>
    obtain ⟨hnew, hblocks⟩ := List.nodup_cons.1 hblocks
    show addBlocks policy (addRule policy new rules) blocks = _
    rw [ih (nodup_addRule hrules) hblocks]
    by_cases hmem : new.selector ∈ rules.map (·.selector)
    · have hselectors : (addRule policy new rules).map (·.selector) = rules.map (·.selector) := by
        rw [selectors_addRule, if_pos hmem]
      have hextended : ∀ r ∈ rules, extendedBy policy blocks
          (if r.selector = new.selector then r.extend policy new.declarations else r) =
            extendedBy policy (new :: blocks) r := by
        intro r _
        by_cases hr : r.selector = new.selector
        · rw [if_pos hr, extendedBy_of_not_mem (by rwa [selector_extend, hr])]
          simp [extendedBy, hr]
        · simp [extendedBy, hr, Ne.symm hr]
      rw [hselectors, addRule_of_mem hrules hmem, List.map_map, List.filter_cons_of_neg (by simpa using hmem)]
      exact congrArg (· ++ _) (List.map_congr_left hextended)
    · have hextended : ∀ r ∈ rules, extendedBy policy blocks r = extendedBy policy (new :: blocks) r := by
        intro r hr
        have hne : new.selector ≠ r.selector := fun hs => hmem (List.mem_map.2 ⟨r, hr, hs.symm⟩)
        simp [extendedBy, hne]
      have hfilter : (blocks.filter fun r => r.selector ∉ (rules ++ [new]).map (·.selector)) =
          blocks.filter fun r => r.selector ∉ rules.map (·.selector) := by
        refine List.filter_congr fun r hr => ?_
        have hne : r.selector ≠ new.selector := fun hs => hnew (List.mem_map.2 ⟨r, hr, hs⟩)
        simp [hne]
      rw [addRule_of_new hmem, hfilter, List.map_append, List.map_singleton, extendedBy_of_not_mem hnew,
        List.filter_cons_of_pos (by simpa using hmem), List.append_assoc, List.singleton_append,
        List.map_congr_left hextended]

end Fold

/-- **A complete stylesheet and what follows it are read each by itself**: the opaque blocks of
the second come behind those of the first, and its rules are folded into those of the first.
Each of them extends the rule of its selector, or comes last where there is none. -/
theorem parse_append {a : Text} (h : Complete a) (b : Text) (policy : DuplicatePolicy) :
    (parse policy (a ++ b)).unparsed = (parse policy a).unparsed ++ (parse policy b).unparsed ∧
    (parse policy (a ++ b)).rules = addBlocks policy (parse policy a).rules (parse policy b).rules ∧
    (parse policy (a ++ b)).rules =
      (parse policy a).rules.map (extendedBy policy (parse policy b).rules) ++
        (parse policy b).rules.filter fun r => r.selector ∉ (parse policy a).rules.map (·.selector) := by
  have hrules : (parse policy (a ++ b)).rules =
      addBlocks policy (parse policy a).rules (parse policy b).rules := by
    have hblocks : ruleBlocks (a ++ b) = ruleBlocks a ++ ruleBlocks b := by
      rw [ruleBlocks, pieces_append h, List.filterMap_append, ruleBlocks, ruleBlocks]
    simp only [rules_parse, hblocks, addBlocks_addBlocks]
    exact List.foldl_append
  refine ⟨?_, hrules, hrules.trans ?_⟩
  · simp only [unparsed_parse, pieces_append h, List.filterMap_append]
  · exact addBlocks_of_distinct (nodup_selectors policy a) (nodup_selectors policy b)

/-- Behind a conditional block and a comment that holds a brace, a selector of the first
stylesheet twice and a new one. -/
theorem parse_append_repeated :
    let a := ".a \x7b c: d; m: 0 \x7d @m \x7b .b \x7b\x7d \x7d\n/* \x7d */".toList
    let b := ".a\x7bc: e\x7d.b\x7b\x7d.a\x7bc: f\x7d .c \x7b".toList
    Complete a ∧ (parse .lastWins (a ++ b)).unparsed = ["@m \x7b .b \x7b\x7d \x7d".toList, ".c \x7b".toList] ∧
      (parse .lastWins (a ++ b)).rules = [⟨".a".toList, [⟨['c'], ['f']⟩]⟩, ⟨".b".toList, []⟩] := by
  intro a b
  have h : Complete a := by
    have hleft : leftover a = "\n/* \x7d */".toList := by decide +kernel
    have hcomment : Trivia "/* \x7d */".toList := @Trivia.comment " \x7d ".toList [] (by decide) .nil
    exact (congrArg Trivia hleft).mpr (.blank (by decide) hcomment)
  obtain ⟨hunparsed, -, hrules⟩ := parse_append h b .lastWins
  refine ⟨h, hunparsed.trans ?_, hrules.trans ?_⟩ <;> decide +kernel

end StyleSnapshot.Stylesheet
