import StyleSnapshot.Comparison.Basic
import StyleSnapshot.Proofs.Dictionary
import StyleSnapshot.Proofs.Stylesheet.Rules
import StyleSnapshot.Proofs.Text.ByteOrder

/-! What a comparison reports.

`Exact` says of a comparison, in terms of the two stylesheets alone, which rules it lists
as missing or additional, which values as different, in which order it lists the failing
ones, and when it passes. The comparison of any two stylesheets that were read from texts
is exact: their selectors are distinct, so that no entry of a dictionary is overwritten by
another one. -/
namespace StyleSnapshot.Comparison

/-- How the value of a property differs from the expected one, as it is reported. The
actual rule is only asked for the value in effect. -/
inductive Differs (expected : Text) (actual : Rule) (property : Text) : ValueDifference → Prop
  /-- No value is in effect. -/
  | missing : (∀ value, ¬ actual.Declares property value) →
      Differs expected actual property ⟨expected, missingValue, false⟩
  /-- The value in effect defers to a custom property. -/
  | tolerated {value : Text} : actual.Declares property value →
      Equivalence.ofValues expected value = .dynamicReference →
      Differs expected actual property ⟨expected, value, true⟩
  /-- The value in effect is another one. -/
  | mismatch {value : Text} : actual.Declares property value →
      Equivalence.ofValues expected value = .mismatch →
      Differs expected actual property ⟨expected, value, false⟩

/-- A property of a selector that both stylesheets have a rule for differs. -/
def DiffersAt (expected actual : Stylesheet) (selector property : Text) (d : ValueDifference) :
    Prop :=
  ∃ e ∈ expected.rules, ∃ a ∈ actual.rules, e.selector = selector ∧ a.selector = selector ∧
    ∃ value, e.Declares property value ∧ Differs value a property d

/-- The order of pairs of a selector and a property, byte by byte. -/
def Before (x y : Text × Text × ValueDifference) : Prop :=
  Text.utf8 x.1 < Text.utf8 y.1 ∨ x.1 = y.1 ∧ Text.utf8 x.2.1 < Text.utf8 y.2.1

/-- A comparison reports what there is to report of two stylesheets, and nothing else. -/
structure Exact (expected actual : Stylesheet) (c : Comparison) : Prop where
  missing : ∀ selector ds, c.missing.get? selector = some ds ↔
    ∃ e ∈ expected.rules, e.selector = selector ∧ e.declarations = ds ∧
      ∀ a ∈ actual.rules, a.selector ≠ selector
  extra : ∀ selector ds, c.extra.get? selector = some ds ↔
    ∃ a ∈ actual.rules, a.selector = selector ∧ a.declarations = ds ∧
      ∀ e ∈ expected.rules, e.selector ≠ selector
  differences : ∀ selector property d,
    (∃ inner, c.differences.get? selector = some inner ∧ inner.get? property = some d) ↔
      DiffersAt expected actual selector property d
  /-- A selector is listed only with a property that differs. -/
  nonempty : ∀ selector inner, c.differences.get? selector = some inner → inner ≠ ∅
  unparsed : c.unparsed = expected.unparsed
  failing : ∀ selector property d, (selector, property, d) ∈ c.failing ↔
    DiffersAt expected actual selector property d ∧ d.tolerated = false
  ordered : c.failing.Pairwise Before
  passed : c.passed = true ↔ ∀ e ∈ expected.rules, ∃ a ∈ actual.rules, a.selector = e.selector ∧
    ∀ property value, e.Declares property value →
      ∃ value', a.Declares property value' ∧ valuesMatch value value' = true

/-! ### Values -/

/-- A difference is reported just where there is one. -/
theorem difference?_eq_some_iff {expected property : Text} {actual : Rule} {d : ValueDifference} :
    difference? expected (actual.value? property) = some d ↔ Differs expected actual property d := by
  constructor
  · intro h
    cases hv : actual.value? property with
    | none =>
      rw [hv] at h
      obtain rfl := Option.some.inj h
      refine .missing fun value hd => ?_
      rw [Rule.value?_eq_some_iff.2 hd] at hv
      exact Option.some_ne_none _ hv
    | some value =>
      have hd := Rule.value?_eq_some_iff.1 hv
      rw [hv] at h
      simp only [difference?] at h
      split at h
      · simp at h
      · simp at h
      · next he =>
        obtain rfl := Option.some.inj h
        exact .tolerated hd he
      · next he =>
        obtain rfl := Option.some.inj h
        exact .mismatch hd he
  · intro h
    cases h with
    | missing hnone =>
      have hv : actual.value? property = none :=
        Option.eq_none_iff_forall_ne_some.2 fun v hv => hnone v (Rule.value?_eq_some_iff.1 hv)
      rw [hv]
      rfl
    | tolerated hd he =>
      rw [Rule.value?_eq_some_iff.2 hd]
      simp only [difference?, he]
    | mismatch hd he =>
      rw [Rule.value?_eq_some_iff.2 hd]
      simp only [difference?, he]

theorem get?_ruleDifferences {e a : Rule} {property : Text} {d : ValueDifference} :
    (ruleDifferences e a).get? property = some d ↔
      ∃ value, e.Declares property value ∧ Differs value a property d := by
  have hkeys : ((e.properties.filterMap fun property => do
      let value ← e.value? property
      let difference ← difference? value (a.value? property)
      some (property, difference)).map (·.1)).Nodup := by
    refine Dictionary.nodup_keys_filterMap id ?_ (by simpa using e.nodup_properties)
    intro property' entry h
    simp only [Option.bind_eq_bind, Option.bind_eq_some_iff, Option.some.injEq] at h
    obtain ⟨_, _, _, _, rfl⟩ := h
    rfl
  rw [ruleDifferences, Dictionary.get?_ofList hkeys]
  simp only [List.mem_filterMap, Option.bind_eq_bind, Option.bind_eq_some_iff, Option.some.injEq,
    Prod.mk.injEq]
  constructor
  · rintro ⟨property', -, value, hv, d', hd, rfl, rfl⟩
    exact ⟨value, Rule.value?_eq_some_iff.1 hv, difference?_eq_some_iff.1 hd⟩
  · rintro ⟨value, hv, hd⟩
    have hv := Rule.value?_eq_some_iff.2 hv
    exact ⟨property, Rule.mem_properties.2 ⟨value, hv⟩, value, hv, d,
      difference?_eq_some_iff.2 hd, rfl, rfl⟩

/-- A rule has a matching value in effect where the property does not differ, or only in a
way that is tolerated. -/
theorem exists_valuesMatch_iff {expected property : Text} {a : Rule} :
    (∃ value, a.Declares property value ∧ valuesMatch expected value = true) ↔
      ∀ d, Differs expected a property d → d.tolerated = true := by
  simp only [← Rule.value?_eq_some_iff, ← difference?_eq_some_iff]
  cases a.value? property with
  | none => simp [difference?]
  | some value =>
    cases he : Equivalence.ofValues expected value <;>
      simp [difference?, valuesMatch, Equivalence.isMatch, he]

/-! ### Rules -/

section Stylesheets
variable {expected actual : Stylesheet}

theorem get?_rulesWithout (h : (expected.rules.map (·.selector)).Nodup) {selector : Text}
    {ds : List Declaration} : (rulesWithout expected actual).get? selector = some ds ↔
      ∃ e ∈ expected.rules, e.selector = selector ∧ e.declarations = ds ∧
        ∀ a ∈ actual.rules, a.selector ≠ selector := by
  have hkeys : (((expected.rules.filter fun r => (actual.rule? r.selector).isNone).map fun r =>
      (r.selector, r.declarations)).map (·.1)).Nodup := by
    rw [List.map_map]
    exact h.sublist (List.filter_sublist.map _)
  rw [rulesWithout, Dictionary.get?_ofList hkeys]
  simp only [List.mem_map, List.mem_filter, Option.isNone_iff_eq_none, Stylesheet.rule?_eq_none_iff,
    Prod.mk.injEq]
  constructor
  · rintro ⟨e, ⟨he, hnone⟩, rfl, rfl⟩
    exact ⟨e, he, rfl, rfl, hnone⟩
  · rintro ⟨e, he, rfl, rfl, hnone⟩
    exact ⟨e, ⟨he, hnone⟩, rfl, rfl⟩

theorem get?_differences (he : (expected.rules.map (·.selector)).Nodup)
    (ha : (actual.rules.map (·.selector)).Nodup) {selector : Text}
    {inner : Dictionary ValueDifference} :
    (ofStylesheets expected actual).differences.get? selector = some inner ↔
      ∃ e ∈ expected.rules, ∃ a ∈ actual.rules, e.selector = selector ∧ a.selector = selector ∧
        inner = ruleDifferences e a ∧ inner ≠ ∅ := by
  have hkeys : ((expected.rules.filterMap fun r => do
      let found ← actual.rule? r.selector
      let differing := ruleDifferences r found
      if differing.isEmpty then none else some (r.selector, differing)).map (·.1)).Nodup := by
    refine Dictionary.nodup_keys_filterMap (·.selector) ?_ he
    intro r entry h
    simp only [Option.bind_eq_bind, Option.bind_eq_some_iff] at h
    obtain ⟨found, -, h⟩ := h
    split at h
    · simp at h
    · rw [← Option.some.inj h]
  rw [ofStylesheets, Dictionary.get?_ofList hkeys]
  simp only [List.mem_filterMap, Option.bind_eq_bind, Option.bind_eq_some_iff,
    Stylesheet.rule?_eq_some_iff ha]
  constructor
  · rintro ⟨e, hmem, a, ⟨hamem, hsel⟩, h⟩
    split at h
    · simp at h
    · next hne =>
      obtain ⟨rfl, rfl⟩ := Prod.mk.inj (Option.some.inj h)
      exact ⟨e, hmem, a, hamem, rfl, hsel, rfl, fun h => hne (Dictionary.isEmpty_iff_eq_empty.2 h)⟩
  · rintro ⟨e, hmem, a, hamem, rfl, hsel, rfl, hne⟩
    exact ⟨e, hmem, a, ⟨hamem, hsel⟩, if_neg fun h => hne (Dictionary.isEmpty_iff_eq_empty.1 h)⟩

/-- The differences of two stylesheets, whatever selectors and properties they are filed under. -/
theorem exists_inner_iff (he : (expected.rules.map (·.selector)).Nodup)
    (ha : (actual.rules.map (·.selector)).Nodup) {selector property : Text} {d : ValueDifference} :
    (∃ inner, (ofStylesheets expected actual).differences.get? selector = some inner ∧
      inner.get? property = some d) ↔ DiffersAt expected actual selector property d := by
  simp only [get?_differences he ha, DiffersAt]
  constructor
  · rintro ⟨_, ⟨e, hmem, a, hamem, hes, has, rfl, -⟩, hd⟩
    exact ⟨e, hmem, a, hamem, hes, has, get?_ruleDifferences.1 hd⟩
  · rintro ⟨e, hmem, a, hamem, hes, has, hd⟩
    have hget := get?_ruleDifferences.2 hd
    refine ⟨_, ⟨e, hmem, a, hamem, hes, has, rfl, fun hempty => ?_⟩, hget⟩
    rw [hempty, Dictionary.get?_empty] at hget
    simp at hget

end Stylesheets

/-! ### Failing differences -/

theorem mem_failing {c : Comparison} {selector property : Text} {d : ValueDifference} :
    (selector, property, d) ∈ c.failing ↔
      (∃ inner, c.differences.get? selector = some inner ∧ inner.get? property = some d) ∧
        d.tolerated = false := by
  simp only [failing, List.mem_flatMap, List.mem_map, List.mem_filter, Prod.exists,
    Prod.mk.injEq, Dictionary.mem_entries, Bool.not_eq_true']
  constructor
  · rintro ⟨_, inner, hi, _, _, ⟨hp, ht⟩, rfl, rfl, rfl⟩
    exact ⟨⟨inner, hi, hp⟩, ht⟩
  · rintro ⟨⟨inner, hi, hp⟩, ht⟩
    exact ⟨selector, inner, hi, property, d, ⟨hp, ht⟩, rfl, rfl, rfl⟩

/-- Selectors ascend, and within one selector properties do. -/
theorem failing_ordered (c : Comparison) : c.failing.Pairwise Before := by
  refine List.pairwise_flatMap.2 ⟨fun outer _ => ?_, c.differences.ascending.imp fun hlt x hx y hy => ?_⟩
  · refine List.pairwise_map.2 ((outer.2.ascending.sublist List.filter_sublist).imp fun hlt => ?_)
    exact Or.inr ⟨rfl, Text.utf8_lt_utf8_iff.2 hlt⟩
  · obtain ⟨_, -, rfl⟩ := List.mem_map.1 hx
    obtain ⟨_, -, rfl⟩ := List.mem_map.1 hy
    exact Or.inl (Text.utf8_lt_utf8_iff.2 hlt)

/-! ### Whole comparisons -/

section Exact
variable {expected actual : Stylesheet}

theorem passed_iff (he : (expected.rules.map (·.selector)).Nodup)
    (ha : (actual.rules.map (·.selector)).Nodup) :
    (ofStylesheets expected actual).passed = true ↔
      ∀ e ∈ expected.rules, ∃ a ∈ actual.rules, a.selector = e.selector ∧
        ∀ property value, e.Declares property value →
          ∃ value', a.Declares property value' ∧ valuesMatch value value' = true := by
  have hmissing : (ofStylesheets expected actual).missing.isEmpty = true ↔
      ∀ e ∈ expected.rules, ∃ a ∈ actual.rules, a.selector = e.selector := by
    rw [Dictionary.isEmpty_iff]
    constructor
    · intro h e hmem
      refine Classical.byContradiction fun hnone => ?_
      refine h e.selector e.declarations ((get?_rulesWithout he).2 ⟨e, hmem, rfl, rfl, ?_⟩)
      exact fun a hamem hsel => hnone ⟨a, hamem, hsel⟩
    · intro h selector ds hget
      obtain ⟨e, hmem, rfl, -, hnone⟩ := (get?_rulesWithout he).1 hget
      obtain ⟨a, hamem, hsel⟩ := h e hmem
      exact hnone a hamem hsel
  have hfailing : (ofStylesheets expected actual).failing.isEmpty = true ↔
      ∀ selector property d, DiffersAt expected actual selector property d → d.tolerated = true := by
    rw [List.isEmpty_iff, List.eq_nil_iff_forall_not_mem]
    simp only [Prod.forall, mem_failing, exists_inner_iff he ha, not_and, Bool.not_eq_false]
  rw [passed, Bool.and_eq_true, hmissing, hfailing]
  simp only [exists_valuesMatch_iff]
  constructor
  · rintro ⟨hsel, hdiff⟩ e hmem
    obtain ⟨a, hamem, has⟩ := hsel e hmem
    exact ⟨a, hamem, has, fun property value hv d hd =>
      hdiff _ _ _ ⟨e, hmem, a, hamem, rfl, has, value, hv, hd⟩⟩
  · intro h
    refine ⟨fun e hmem => ?_, ?_⟩
    · obtain ⟨a, hamem, has, -⟩ := h e hmem
      exact ⟨a, hamem, has⟩
    · rintro selector property d ⟨e, hmem, a, hamem, rfl, has, value, hv, hd⟩
      obtain ⟨a', hamem', has', hall⟩ := h e hmem
      -- The rule that matches is the one that was compared.
      obtain rfl := List.inj_on_of_nodup_map ha hamem' hamem (has'.trans has.symm)
      exact hall property value hv d hd

theorem exact_of_nodup (he : (expected.rules.map (·.selector)).Nodup)
    (ha : (actual.rules.map (·.selector)).Nodup) :
    Exact expected actual (ofStylesheets expected actual) where
  missing _ _ := get?_rulesWithout he
  extra _ _ := get?_rulesWithout ha
  differences _ _ _ := exists_inner_iff he ha
  nonempty _ _ h := by
    obtain ⟨_, -, _, -, -, -, -, hne⟩ := (get?_differences he ha).1 h
    exact hne
  unparsed := rfl
  failing _ _ _ := by rw [mem_failing, exists_inner_iff he ha]
  ordered := failing_ordered _
  passed := passed_iff he ha

end Exact

theorem not_differs_self {r : Rule} {property value : Text} {d : ValueDifference}
    (h : r.Declares property value) : ¬ Differs value r property d := by
  rw [← difference?_eq_some_iff, Rule.value?_eq_some_iff.2 h]
  simp [difference?, Equivalence.ofValues]

theorem ofStylesheets_self {s : Stylesheet} (h : (s.rules.map (·.selector)).Nodup) :
    ofStylesheets s s = ⟨∅, ∅, ∅, s.unparsed⟩ := by
  have hrules : rulesWithout s s = ∅ := by
    rw [← Dictionary.isEmpty_iff_eq_empty, Dictionary.isEmpty_iff]
    intro selector ds hget
    obtain ⟨e, hmem, rfl, -, hnone⟩ := (get?_rulesWithout h).1 hget
    exact hnone e hmem rfl
  have hdiff : (ofStylesheets s s).differences = ∅ := by
    rw [← Dictionary.isEmpty_iff_eq_empty, Dictionary.isEmpty_iff]
    intro selector inner hget
    obtain ⟨e, hmem, a, hamem, rfl, hsel, rfl, hne⟩ := (get?_differences h h).1 hget
    obtain rfl := List.inj_on_of_nodup_map h hamem hmem hsel
    refine hne (Dictionary.ext_get? fun property => ?_)
    rw [Dictionary.get?_empty]
    refine Option.eq_none_iff_forall_ne_some.2 fun d hd => ?_
    obtain ⟨value, hv, hd⟩ := get?_ruleDifferences.1 hd
    exact not_differs_self hv hd
  calc ofStylesheets s s
      = ⟨rulesWithout s s, rulesWithout s s, (ofStylesheets s s).differences, s.unparsed⟩ := rfl
    _ = ⟨∅, ∅, ∅, s.unparsed⟩ := by rw [hrules, hdiff]

/-- **The comparison of two stylesheets reports exactly what differs**, and that of a
stylesheet with itself reports nothing and passes. -/
theorem ofStylesheets_parse_exact (p q : DuplicatePolicy) (s t : Text) :
    Exact (.parse p s) (.parse q t) (ofStylesheets (.parse p s) (.parse q t)) ∧
      ofStylesheets (.parse p s) (.parse p s) = ⟨∅, ∅, ∅, (Stylesheet.parse p s).unparsed⟩ ∧
      (ofStylesheets (.parse p s) (.parse p s)).passed = true := by
  have hs := Stylesheet.nodup_selectors p s
  refine ⟨exact_of_nodup hs (Stylesheet.nodup_selectors q t), ofStylesheets_self hs, ?_⟩
  rw [ofStylesheets_self hs]
  rfl

end StyleSnapshot.Comparison
