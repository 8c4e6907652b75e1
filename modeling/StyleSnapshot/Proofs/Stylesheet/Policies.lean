import Mathlib.Data.List.Induction
import StyleSnapshot.Proofs.Stylesheet.Rules

/-! What the policy for repeated selectors decides.

Under either policy the rules of a text stand in the order in which their selectors first
appear, and what a rule declares comes from the blocks of its selector
(`declarations_of_mem`): from all of them in order, or from the last. The last block has the
last word in both, so a value that is effective when the last block replaces the others is
effective when all are kept. -/
namespace StyleSnapshot.Stylesheet

/-! ### Selectors -/

/-- The selectors of the flat blocks of a text in order of first appearance. -/
def selectorsOf (t : Text) : List Text := ((ruleBlocks t).map (·.selector)).eraseDups

theorem selectors_addBlocks (policy : DuplicatePolicy) (blocks : List Rule) :
    (addBlocks policy [] blocks).map (·.selector) = (blocks.map (·.selector)).eraseDups := by
  induction blocks using List.reverseRecOn with
  | nil => rfl
  | append_singleton blocks new ih =>
    have hlast : addBlocks policy [] (blocks ++ [new]) = addRule policy new (addBlocks policy [] blocks) := by
      simp [addBlocks]
    rw [hlast, selectors_addRule, ih, List.map_append, List.map_singleton, Text.eraseDups_concat]
    simp only [List.mem_eraseDups]

theorem selectors_parse (policy : DuplicatePolicy) (t : Text) :
    (parse policy t).rules.map (·.selector) = selectorsOf t := by
  rw [rules_parse, selectors_addBlocks]
  rfl

/-! ### Declarations -/

/-- The flat blocks of a selector. -/
def blocksOf (t selector : Text) : List Rule := (ruleBlocks t).filter (·.selector = selector)

/-- What the blocks of one selector declare together. -/
def declarationsOf : DuplicatePolicy → List Rule → List Declaration
  | .merge, blocks => blocks.flatMap (·.declarations)
  | .lastWins, blocks => (blocks.getLast?.map (·.declarations)).getD []

theorem declarationsOf_extend (policy : DuplicatePolicy) (r new : Rule) (blocks : List Rule) :
    declarationsOf policy (r.extend policy new.declarations :: blocks) =
      declarationsOf policy (r :: new :: blocks) := by
  cases policy with
  | merge => simp [declarationsOf, Rule.extend]
  | lastWins => cases blocks <;> simp [declarationsOf, Rule.extend]

theorem foldl_fold (policy : DuplicatePolicy) (r : Rule) (blocks : List Rule) :
    blocks.foldl (fold policy) (some r) = some ⟨r.selector, declarationsOf policy (r :: blocks)⟩ := by
  induction blocks generalizing r with
  | nil => cases policy <;> simp [declarationsOf]
  | cons new blocks ih =>
    show blocks.foldl (fold policy) (some (r.extend policy new.declarations)) = _
    rw [ih, selector_extend, declarationsOf_extend]

/-- The rule of a selector comes from its own blocks. -/
theorem rule?_parse (policy : DuplicatePolicy) (t selector : Text) :
    (parse policy t).rule? selector = if blocksOf t selector = [] then none
      else some ⟨selector, declarationsOf policy (blocksOf t selector)⟩ := by
  rw [rule?, rules_parse, find?_addBlocks, ← blocksOf, List.find?_nil]
  cases hblocks : blocksOf t selector with
  | nil => rfl
  | cons r blocks =>
    have hr : r.selector = selector := by
      have hmem : r ∈ blocksOf t selector := hblocks ▸ List.mem_cons_self
      simpa using (List.mem_filter.1 hmem).2
    show blocks.foldl (fold policy) (some r) = _
    rw [foldl_fold, hr, if_neg (List.cons_ne_nil r blocks)]

theorem declarations_of_mem {policy : DuplicatePolicy} {t : Text} {r : Rule}
    (h : r ∈ (parse policy t).rules) : blocksOf t r.selector ≠ [] ∧
      r.declarations = declarationsOf policy (blocksOf t r.selector) := by
  have hfind := (rule?_eq_some_iff (nodup_selectors policy t)).2 ⟨h, rfl⟩
  rw [rule?_parse] at hfind
  split at hfind
  · simp at hfind
  · next hne => exact ⟨hne, (congrArg Rule.declarations (Option.some.inj hfind)).symm⟩

/-! ### The two policies -/

/-- What the last of some declarations say is in force, whatever was declared before. -/
theorem value?_append {selector property value : Text} {ds : List Declaration}
    (h : (Rule.mk selector ds).value? property = some value) (earlier : List Declaration) :
    (Rule.mk selector (earlier ++ ds)).value? property = some value := by
  obtain ⟨before, after, heq, hafter⟩ := Rule.value?_eq_some_iff.1 h
  refine Rule.value?_eq_some_iff.2 ⟨earlier ++ before, after, ?_, hafter⟩
  rw [List.append_assoc]
  exact congrArg (earlier ++ ·) heq

theorem declarationsOf_merge (blocks : List Rule) : ∃ earlier,
    declarationsOf .merge blocks = earlier ++ declarationsOf .lastWins blocks := by
  rcases List.eq_nil_or_concat blocks with rfl | ⟨blocks, last, rfl⟩
  · exact ⟨[], rfl⟩
  · exact ⟨blocks.flatMap (·.declarations), by simp [declarationsOf]⟩

/-- Values in force under replacement are in force when all blocks are kept. -/
theorem value?_merge_of_lastWins {t selector property value : Text}
    (h : ((parse .lastWins t).rule? selector).bind (·.value? property) = some value) :
    ((parse .merge t).rule? selector).bind (·.value? property) = some value := by
  rw [rule?_parse] at h ⊢
  split at h
  · simp at h
  · next hne =>
    obtain ⟨earlier, hmerge⟩ := declarationsOf_merge (blocksOf t selector)
    rw [if_neg hne, hmerge]
    exact value?_append h earlier

/-- The policies agree on everything but the declarations of repeated selectors, and there the
later blocks prevail in both. -/
theorem parse_merge_lastWins (t : Text) :
    (parse .merge t).unparsed = (parse .lastWins t).unparsed ∧
    (parse .merge t).rules.map (·.selector) = selectorsOf t ∧
    (parse .lastWins t).rules.map (·.selector) = selectorsOf t ∧
    (∀ r ∈ (parse .merge t).rules,
      r.declarations = (blocksOf t r.selector).flatMap (·.declarations)) ∧
    (∀ r ∈ (parse .lastWins t).rules,
      some r.declarations = (blocksOf t r.selector).getLast?.map (·.declarations)) ∧
    (∀ selector property value,
      ((parse .lastWins t).rule? selector).bind (·.value? property) = some value →
        ((parse .merge t).rule? selector).bind (·.value? property) = some value) ∧
    (((ruleBlocks t).map (·.selector)).Nodup → parse .merge t = parse .lastWins t) := by
  refine ⟨?_, selectors_parse .merge t, selectors_parse .lastWins t,
    fun r hr => (declarations_of_mem hr).2, fun r hr => ?_, fun _ _ _ => value?_merge_of_lastWins,
    fun h => ?_⟩
  · rw [unparsed_parse, unparsed_parse]
  · obtain ⟨hne, hr⟩ := declarations_of_mem hr
    obtain ⟨blocks, last, hblocks⟩ := (List.eq_nil_or_concat _).resolve_left hne
    rw [hr, hblocks]
    simp [declarationsOf]
  · rw [parse_eq_of_nodup h, parse_eq_of_nodup h]

/-- A selector that is repeated behind another, with a property that only the first block has. -/
theorem parse_merge_lastWins_repeated :
    ((parse .lastWins ".a \x7bc: d; m: 0\x7d.b\x7b\x7d.a\x7bc: e\x7d".toList).rule? ".a".toList).bind
        (·.value? "c".toList) = some "e".toList ∧
      ((parse .merge ".a \x7bc: d; m: 0\x7d.b\x7b\x7d.a\x7bc: e\x7d".toList).rule? ".a".toList).bind
        (·.value? "c".toList) = some "e".toList ∧
      ((ruleBlocks ".a \x7bc: d\x7d.b\x7b\x7d".toList).map (·.selector)).Nodup ∧
      parse .merge ".a \x7bc: d\x7d.b\x7b\x7d".toList = parse .lastWins ".a \x7bc: d\x7d.b\x7b\x7d".toList := by
  have hvalue : ((parse .lastWins ".a \x7bc: d; m: 0\x7d.b\x7b\x7d.a\x7bc: e\x7d".toList).rule?
      ".a".toList).bind (·.value? "c".toList) = some "e".toList := by decide +kernel
  have hnodup : ((ruleBlocks ".a \x7bc: d\x7d.b\x7b\x7d".toList).map (·.selector)).Nodup := by
    decide +kernel
  exact ⟨hvalue, (parse_merge_lastWins _).2.2.2.2.2.1 _ _ _ hvalue, hnodup,
    (parse_merge_lastWins _).2.2.2.2.2.2 hnodup⟩

end StyleSnapshot.Stylesheet
