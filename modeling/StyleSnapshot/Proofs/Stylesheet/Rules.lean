import Mathlib.Data.List.Nodup
import StyleSnapshot.Proofs.Text.Rows
import StyleSnapshot.Stylesheet.Piece

/-! The rules of a stylesheet.

`nodup_selectors` is what reading a stylesheet guarantees: however often its text repeats
a selector, the result has one rule for it. A rule is then determined by its selector,
so that looking it up and being a rule are the same (`rule?_eq_some_iff`). Within a rule,
`value?_eq_some_iff` says that the effective value is the one that no later declaration
overrides. `rules_parse` says how rules come about: the flat blocks of the text are folded
together in order, and what becomes of one selector depends on its own blocks only
(`find?_addBlocks`). -/
namespace StyleSnapshot

/-! ### Effective values -/

namespace Rule

/-- The rule declares a property with this value, and does not declare it again. -/
def Declares (r : Rule) (property value : Text) : Prop :=
  ∃ before after, r.declarations = before ++ ⟨property, value⟩ :: after ∧
    ∀ d ∈ after, d.property ≠ property

theorem value?_eq_some_iff {r : Rule} {property value : Text} :
    r.value? property = some value ↔ r.Declares property value := by
  simp only [value?, Option.map_eq_some_iff, List.find?_eq_some_iff_append, decide_eq_true_eq]
  constructor
  · rintro ⟨d, ⟨rfl, after, before, h, hafter⟩, rfl⟩
    refine ⟨before.reverse, after.reverse, ?_, ?_⟩
    · have := congrArg List.reverse h
      simpa using this
    · intro d' hd'
      simpa using hafter d' (List.mem_reverse.1 hd')
  · rintro ⟨before, after, h, hafter⟩
    refine ⟨⟨property, value⟩, ⟨rfl, after.reverse, before.reverse, ?_, ?_⟩, rfl⟩
    · rw [h]
      simp
    · intro d' hd'
      simpa using hafter d' (List.mem_reverse.1 hd')

theorem value?_eq_none_iff {r : Rule} {property : Text} :
    r.value? property = none ↔ ∀ d ∈ r.declarations, d.property ≠ property := by
  simp [value?]

/-- The properties of a rule are those that have an effective value. -/
theorem mem_properties {r : Rule} {property : Text} :
    property ∈ r.properties ↔ ∃ value, r.value? property = some value := by
  rw [properties, List.mem_eraseDups, List.mem_map, ← Option.isSome_iff_exists,
    ← Option.ne_none_iff_isSome, ne_eq, value?_eq_none_iff]
  simp

theorem nodup_properties (r : Rule) : r.properties.Nodup := Text.nodup_eraseDups _

end Rule

/-! ### One rule for a selector -/

namespace Stylesheet

theorem selector_extend (policy : DuplicatePolicy) (r : Rule) (ds : List Declaration) :
    (r.extend policy ds).selector = r.selector := by
  cases policy <;> rfl

/-- A further block adds its selector at the end, if there is no rule for it yet. -/
theorem selectors_addRule (policy : DuplicatePolicy) (new : Rule) (rules : List Rule) :
    (addRule policy new rules).map (·.selector) =
      if new.selector ∈ rules.map (·.selector) then rules.map (·.selector)
      else rules.map (·.selector) ++ [new.selector] := by
  induction rules with
  | nil => simp [addRule]
  | cons r rest ih =>
    by_cases h : r.selector = new.selector
    · simp [addRule, h, selector_extend]
    · simp only [addRule, h, if_false, List.map_cons, ih, List.mem_cons, Ne.symm h, false_or]
      split <;> rfl

theorem nodup_addRule {policy : DuplicatePolicy} {new : Rule} {rules : List Rule}
    (h : (rules.map (·.selector)).Nodup) :
    ((addRule policy new rules).map (·.selector)).Nodup := by
  rw [selectors_addRule]
  split
  · exact h
  · next hnew => exact List.nodup_append.2 ⟨h, List.nodup_singleton _, by simpa using hnew⟩

theorem nodup_add {policy : DuplicatePolicy} {s : Stylesheet} (piece : Piece)
    (h : (s.rules.map (·.selector)).Nodup) :
    ((add policy s piece).rules.map (·.selector)).Nodup := by
  cases piece with
  | rule r => exact nodup_addRule h
  | unparsed t => exact h
  | anonymous => exact h

/-- A text gives one rule for each selector. -/
theorem nodup_selectors (policy : DuplicatePolicy) (t : Text) :
    ((parse policy t).rules.map (·.selector)).Nodup := by
  have run : ∀ (ps : List Piece) (s : Stylesheet), (s.rules.map (·.selector)).Nodup →
      ((ps.foldl (add policy) s).rules.map (·.selector)).Nodup := by
    intro ps
    induction ps with
    | nil => exact fun s h => h
    | cons p rest ih => exact fun s h => ih _ (nodup_add p h)
  exact run _ _ List.nodup_nil

theorem rule?_eq_none_iff {s : Stylesheet} {selector : Text} :
    s.rule? selector = none ↔ ∀ r ∈ s.rules, r.selector ≠ selector := by
  simp [rule?]

/-- Where selectors are distinct, the rule of a selector is the one that has it. -/
theorem rule?_eq_some_iff {s : Stylesheet} (h : (s.rules.map (·.selector)).Nodup)
    {selector : Text} {r : Rule} :
    s.rule? selector = some r ↔ r ∈ s.rules ∧ r.selector = selector := by
  constructor
  · intro hr
    exact ⟨List.mem_of_find?_eq_some hr, by simpa using List.find?_some hr⟩
  · rintro ⟨hr, rfl⟩
    cases hf : s.rule? r.selector with
    | none => exact absurd rfl (rule?_eq_none_iff.1 hf r hr)
    | some r' =>
      have hs : r'.selector = r.selector := by simpa using List.find?_some hf
      rw [List.inj_on_of_nodup_map h (List.mem_of_find?_eq_some hf) hr hs]

/-! ### From blocks to rules -/

/-- The rule that a piece is. -/
def Piece.rule? : Piece → Option Rule
  | .rule r => some r
  | .unparsed _ | .anonymous => none

/-- The text that a piece is kept as. -/
def Piece.unparsed? : Piece → Option Text
  | .unparsed t => some t
  | .rule _ | .anonymous => none

/-- The flat blocks of a text, before those of one selector are folded together. -/
def ruleBlocks (t : Text) : List Rule := (pieces t).filterMap Piece.rule?

/-- The rules with some further blocks. -/
def addBlocks (policy : DuplicatePolicy) (rules blocks : List Rule) : List Rule :=
  blocks.foldl (fun rs r => addRule policy r rs) rules

theorem foldl_add (policy : DuplicatePolicy) (ps : List Piece) (s : Stylesheet) :
    ps.foldl (add policy) s =
      ⟨addBlocks policy s.rules (ps.filterMap Piece.rule?),
        s.unparsed ++ ps.filterMap Piece.unparsed?⟩ := by
  induction ps generalizing s with
  | nil => simp [addBlocks]
  | cons p ps ih =>
    rw [List.foldl_cons, ih]
    cases p <;> simp [add, addBlocks, List.filterMap_cons, Piece.rule?, Piece.unparsed?]

theorem rules_parse (policy : DuplicatePolicy) (t : Text) :
    (parse policy t).rules = addBlocks policy [] (ruleBlocks t) := by
  rw [parse, foldl_add]
  rfl

theorem unparsed_parse (policy : DuplicatePolicy) (t : Text) :
    (parse policy t).unparsed = (pieces t).filterMap Piece.unparsed? := by
  rw [parse, foldl_add]
  exact List.nil_append _

/-- The rule of a selector with one more block for it. -/
def fold (policy : DuplicatePolicy) (found : Option Rule) (new : Rule) : Option Rule :=
  some (match found with
    | none => new
    | some r => r.extend policy new.declarations)

theorem find?_addRule (policy : DuplicatePolicy) (new : Rule) (rules : List Rule) (selector : Text) :
    (addRule policy new rules).find? (·.selector = selector) =
      if new.selector = selector then fold policy (rules.find? (·.selector = selector)) new
      else rules.find? (·.selector = selector) := by
  induction rules with
  | nil =>
    by_cases h : new.selector = selector <;> simp [addRule, fold, h]
  | cons r rest ih =>
    by_cases hr : r.selector = new.selector
    · by_cases h : new.selector = selector
      · simp [addRule, fold, hr, h, selector_extend]
      · simp [addRule, hr, h, selector_extend]
    · have hcons : addRule policy new (r :: rest) = r :: addRule policy new rest := by
        simp only [addRule, if_neg hr]
      rw [hcons]
      by_cases hs : r.selector = selector
      · have hne : new.selector ≠ selector := fun h => hr (hs.trans h.symm)
        simp [hs, hne]
      · simp only [hs, decide_false, Bool.false_eq_true, not_false_eq_true, List.find?_cons_of_neg, ih]

/-- What becomes of a selector depends on the blocks that have it. -/
theorem find?_addBlocks (policy : DuplicatePolicy) (rules blocks : List Rule) (selector : Text) :
    (addBlocks policy rules blocks).find? (·.selector = selector) =
      (blocks.filter (·.selector = selector)).foldl (fold policy)
        (rules.find? (·.selector = selector)) := by
  induction blocks generalizing rules with
  | nil => rfl
  | cons new blocks ih =>
    have hih := ih (addRule policy new rules)
    rw [find?_addRule] at hih
    by_cases h : new.selector = selector
    · rw [List.filter_cons_of_pos (by simpa using h), List.foldl_cons]
      rw [if_pos h] at hih
      exact hih
    · rw [List.filter_cons_of_neg (by simpa using h)]
      rw [if_neg h] at hih
      exact hih

theorem addRule_of_new {policy : DuplicatePolicy} {new : Rule} {rules : List Rule}
    (h : new.selector ∉ rules.map (·.selector)) : addRule policy new rules = rules ++ [new] := by
  induction rules with
  | nil => rfl
  | cons r rest ih =>
    rw [List.map_cons, List.mem_cons, not_or] at h
    simp [addRule, Ne.symm h.1, ih h.2]

/-- A further block for a selector extends the rule at its position. -/
theorem addRule_of_findIdx? (policy : DuplicatePolicy) {new : Rule} {rules : List Rule} {position : Nat}
    (h : (rules.map (·.selector)).findIdx? (· = new.selector) = some position) :
    ∃ r, rules[position]? = some r ∧
      addRule policy new rules = rules.set position (r.extend policy new.declarations) := by
  induction rules generalizing position with
  | nil => exact absurd h.symm (Option.some_ne_none _)
  | cons r rest ih =>
    rw [List.map_cons, List.findIdx?_cons] at h
    by_cases hr : r.selector = new.selector
    · rw [if_pos (decide_eq_true hr)] at h
      obtain rfl := Option.some.inj h
      exact ⟨r, rfl, by rw [addRule, if_pos hr]; rfl⟩
    · rw [if_neg (by simpa using hr)] at h
      obtain ⟨before, hbefore, rfl⟩ := Option.map_eq_some_iff.1 h
      obtain ⟨found, hfound, hadd⟩ := ih hbefore
      exact ⟨found, hfound, by rw [addRule, if_neg hr, hadd]; rfl⟩

/-- Blocks of different selectors are rules as they stand. -/
theorem addBlocks_of_nodup {policy : DuplicatePolicy} {rules blocks : List Rule}
    (h : ((rules ++ blocks).map (·.selector)).Nodup) :
    addBlocks policy rules blocks = rules ++ blocks := by
  induction blocks generalizing rules with
  | nil => simp [addBlocks]
  | cons new blocks ih =>
    have hnew : new.selector ∉ rules.map (·.selector) := by
      rw [List.map_append, List.map_cons] at h
      exact fun hmem => (List.nodup_append.1 h).2.2 _ hmem _ List.mem_cons_self rfl
    rw [List.append_cons] at h ⊢
    rw [← ih h, ← addRule_of_new hnew]
    rfl

/-- Without a repeated selector there is nothing to decide. -/
theorem parse_eq_of_nodup {t : Text} (h : ((ruleBlocks t).map (·.selector)).Nodup)
    (policy : DuplicatePolicy) :
    parse policy t = ⟨ruleBlocks t, (pieces t).filterMap Piece.unparsed?⟩ := by
  rw [parse, foldl_add]
  congr 1
  exact addBlocks_of_nodup h

end Stylesheet
end StyleSnapshot
