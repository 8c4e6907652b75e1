import StyleSnapshot.Proofs.Comparison.Exact

/-! A comparison sees effective values only.

Of the actual stylesheet it sees whether the expected selectors have a rule, and which
values are in effect there for the expected properties (`AgreeOn`). Rules and declarations
may come in another order, be overridden, or be there beside the expected ones. Of the
expected stylesheet it sees the selectors and the values in effect (`SameValues`); the
declarations themselves are only listed where a rule is missing. -/
namespace StyleSnapshot

namespace Stylesheet

/-- The effective value of a property in the rule of a selector. -/
def value? (s : Stylesheet) (selector property : Text) : Option Text :=
  (s.rule? selector).bind (·.value? property)

/-- To a stylesheet that is expected, two others look the same: they have rules for the
same of its selectors, with the same effective values of the properties it declares. -/
structure AgreeOn (expected a b : Stylesheet) : Prop where
  selectors : ∀ e ∈ expected.rules, (a.rule? e.selector).isSome = (b.rule? e.selector).isSome
  values : ∀ e ∈ expected.rules, ∀ property ∈ e.properties,
    a.value? e.selector property = b.value? e.selector property

/-- The same selectors with the same effective values. -/
structure SameValues (s t : Stylesheet) : Prop where
  selectors : ∀ selector, (s.rule? selector).isSome = (t.rule? selector).isSome
  values : ∀ selector property, s.value? selector property = t.value? selector property

theorem SameValues.symm {s t : Stylesheet} (h : SameValues s t) : SameValues t s :=
  ⟨fun selector => (h.selectors selector).symm, fun selector property => (h.values selector property).symm⟩

theorem rule?_of_mem {s : Stylesheet} (hs : (s.rules.map (·.selector)).Nodup) {r : Rule}
    (h : r ∈ s.rules) : s.rule? r.selector = some r := (rule?_eq_some_iff hs).2 ⟨h, rfl⟩

/-- Where one stylesheet has a rule the other one has a rule with the same effective values. -/
theorem SameValues.exists_rule {s t : Stylesheet} (h : SameValues s t) {selector : Text} {r : Rule}
    (hr : s.rule? selector = some r) :
    ∃ r', t.rule? selector = some r' ∧ ∀ property, r.value? property = r'.value? property := by
  have hsome := h.selectors selector
  rw [hr, Option.isSome_some] at hsome
  obtain ⟨r', hr'⟩ := Option.isSome_iff_exists.1 hsome.symm
  refine ⟨r', hr', fun property => ?_⟩
  have hvalue := h.values selector property
  rwa [value?, value?, hr, hr'] at hvalue

end Stylesheet

namespace Comparison
open Stylesheet

/-! ### Other actual stylesheets -/

theorem ruleDifferences_congr {e a b : Rule}
    (h : ∀ property ∈ e.properties, a.value? property = b.value? property) :
    ruleDifferences e a = ruleDifferences e b := by
  refine congrArg Dictionary.ofList (List.filterMap_congr fun property hp => ?_)
  rw [h property hp]

theorem rulesWithout_congr {s a b : Stylesheet}
    (h : ∀ r ∈ s.rules, (a.rule? r.selector).isSome = (b.rule? r.selector).isSome) :
    rulesWithout s a = rulesWithout s b := by
  have hfilter : s.rules.filter (fun r => (a.rule? r.selector).isNone) =
      s.rules.filter fun r => (b.rule? r.selector).isNone :=
    List.filter_congr fun r hr => by rw [← Option.not_isSome, ← Option.not_isSome, h r hr]
  rw [rulesWithout, hfilter, rulesWithout]

theorem differences_congr {expected a b : Stylesheet} (h : AgreeOn expected a b) :
    (ofStylesheets expected a).differences = (ofStylesheets expected b).differences := by
  refine congrArg Dictionary.ofList (List.filterMap_congr fun e he => ?_)
  have hsome := h.selectors e he
  have hvalues := h.values e he
  simp only [Stylesheet.value?] at hvalues
  cases ha : a.rule? e.selector with
  | none =>
    rw [ha] at hsome
    have hb : b.rule? e.selector = none := by
      rw [← Option.not_isSome_iff_eq_none, ← hsome]
      simp
    rw [hb]
  | some r =>
    rw [ha] at hsome hvalues
    obtain ⟨r', hb⟩ := Option.isSome_iff_exists.1 hsome.symm
    rw [hb] at hvalues ⊢
    simp only [Option.bind_eq_bind, Option.bind_some, ruleDifferences_congr hvalues]

/-! ### Other expected stylesheets -/

/-- The differences of a rule depend on the values in effect. -/
theorem ruleDifferences_of_values {e e' : Rule} (a : Rule)
    (h : ∀ property, e.value? property = e'.value? property) :
    ruleDifferences e a = ruleDifferences e' a := by
  refine Dictionary.ext_get? fun property => Option.ext fun d => ?_
  simp only [get?_ruleDifferences, ← Rule.value?_eq_some_iff, h property]

section Expected
variable {e e' actual : Stylesheet}

theorem get?_differences_of_values (he : (e.rules.map (·.selector)).Nodup)
    (he' : (e'.rules.map (·.selector)).Nodup) (ha : (actual.rules.map (·.selector)).Nodup)
    (h : SameValues e e') {selector : Text} {inner : Dictionary ValueDifference}
    (hget : (ofStylesheets e actual).differences.get? selector = some inner) :
    (ofStylesheets e' actual).differences.get? selector = some inner := by
  obtain ⟨r, hr, a, hamem, rfl, hsel, rfl, hne⟩ := (get?_differences he ha).1 hget
  obtain ⟨r', hr', hvalues⟩ := h.exists_rule (rule?_of_mem he hr)
  obtain ⟨hmem, hsel'⟩ := (rule?_eq_some_iff he').1 hr'
  exact (get?_differences he' ha).2
    ⟨r', hmem, a, hamem, hsel', hsel, ruleDifferences_of_values a hvalues, hne⟩

theorem differences_of_values (he : (e.rules.map (·.selector)).Nodup)
    (he' : (e'.rules.map (·.selector)).Nodup) (ha : (actual.rules.map (·.selector)).Nodup)
    (h : SameValues e e') :
    (ofStylesheets e actual).differences = (ofStylesheets e' actual).differences :=
  Dictionary.ext_get? fun _ => Option.ext fun _ =>
    ⟨get?_differences_of_values he he' ha h, get?_differences_of_values he' he ha h.symm⟩

theorem mem_keys_missing (he : (e.rules.map (·.selector)).Nodup) {selector : Text} :
    selector ∈ (ofStylesheets e actual).missing.keys ↔
      (e.rule? selector).isSome = true ∧ actual.rule? selector = none := by
  rw [Dictionary.mem_keys, Option.isSome_iff_exists, rule?_eq_none_iff]
  constructor
  · rintro ⟨ds, hget⟩
    obtain ⟨r, hr, rfl, -, hnone⟩ := (get?_rulesWithout he).1 hget
    exact ⟨⟨r, rule?_of_mem he hr⟩, hnone⟩
  · rintro ⟨⟨r, hr⟩, hnone⟩
    obtain ⟨hmem, hsel⟩ := (rule?_eq_some_iff he).1 hr
    exact ⟨r.declarations, (get?_rulesWithout he).2 ⟨r, hmem, hsel, rfl, hnone⟩⟩

theorem keys_missing_of_values (he : (e.rules.map (·.selector)).Nodup)
    (he' : (e'.rules.map (·.selector)).Nodup) (h : SameValues e e') :
    (ofStylesheets e actual).missing.keys = (ofStylesheets e' actual).missing.keys := by
  refine Dictionary.keys_ext fun selector => ?_
  rw [mem_keys_missing he, mem_keys_missing he', h.selectors selector]

end Expected

/-! ### Verdicts -/

/-- The verdict depends on which selectors are missing and on the differences. -/
theorem passed_congr {c c' : Comparison} (hmissing : c.missing.keys = c'.missing.keys)
    (hdiff : c.differences = c'.differences) : c.passed = c'.passed := by
  have hempty : c.missing.isEmpty = c'.missing.isEmpty := by
    have hkeys := congrArg List.isEmpty hmissing
    rwa [Dictionary.keys, Dictionary.keys, List.isEmpty_map, List.isEmpty_map] at hkeys
  have hfailing : c.failing = c'.failing := by rw [failing, hdiff, ← failing]
  rw [passed, passed, hempty, hfailing]

/-- **A comparison sees effective values only**, on either side. -/
theorem ofStylesheets_effective (p p' q q' : DuplicatePolicy) (s s' t t' : Text) :
    (AgreeOn (.parse p s) (.parse q t) (.parse q' t') →
      let c := ofStylesheets (.parse p s) (.parse q t)
      let c' := ofStylesheets (.parse p s) (.parse q' t')
      c.passed = c'.passed ∧ c.missing = c'.missing ∧ c.differences = c'.differences) ∧
    (SameValues (.parse p s) (.parse p' s') →
      let c := ofStylesheets (.parse p s) (.parse q t)
      let c' := ofStylesheets (.parse p' s') (.parse q t)
      c.passed = c'.passed ∧ c.differences = c'.differences ∧ c.extra = c'.extra ∧
        c.missing.keys = c'.missing.keys) := by
  have hs := nodup_selectors p s
  have hs' := nodup_selectors p' s'
  have ht := nodup_selectors q t
  constructor
  · intro h c c'
    have hmissing : c.missing = c'.missing := rulesWithout_congr h.selectors
    have hdiff := differences_congr h
    exact ⟨passed_congr (congrArg _ hmissing) hdiff, hmissing, hdiff⟩
  · intro h c c'
    have hkeys : c.missing.keys = c'.missing.keys := keys_missing_of_values hs hs' h
    have hdiff := differences_of_values hs hs' ht h
    exact ⟨passed_congr hkeys hdiff, hdiff, rulesWithout_congr fun r _ => h.selectors r.selector, hkeys⟩

/-- The rule of a selector that declares a property twice, and that of one that is replaced. -/
theorem sameValues_overridden : SameValues (.parse .merge ".a \x7b p: 1; p: 2 \x7d".toList)
    (.parse .lastWins ".a \x7b \x7d .a \x7b p: 2 \x7d".toList) := by
  have htwice : Stylesheet.parse .merge ".a \x7b p: 1; p: 2 \x7d".toList =
      ⟨[⟨['.', 'a'], [⟨['p'], ['1']⟩, ⟨['p'], ['2']⟩]⟩], []⟩ := by
    decide +kernel
  have honce : Stylesheet.parse .lastWins ".a \x7b \x7d .a \x7b p: 2 \x7d".toList =
      ⟨[⟨['.', 'a'], [⟨['p'], ['2']⟩]⟩], []⟩ := by
    decide +kernel
  rw [htwice, honce]
  constructor
  · intro selector
    by_cases h : ['.', 'a'] = selector <;> simp [rule?, h]
  · intro selector property
    by_cases h : ['.', 'a'] = selector
    · by_cases hp : ['p'] = property <;> simp [Stylesheet.value?, rule?, Rule.value?, h, hp]
    · simp [Stylesheet.value?, rule?, h]

/-- Other rules, other properties and values that are overridden change no verdict. -/
theorem ofStylesheets_effective_overridden :
    let e := Stylesheet.parse .merge ".a \x7b p: 1; p: 2 \x7d".toList
    let e' := Stylesheet.parse .lastWins ".a \x7b \x7d .a \x7b p: 2 \x7d".toList
    let a := Stylesheet.parse .merge ".a \x7b p: 3 \x7d".toList
    let b := Stylesheet.parse .merge
      "@media x \x7b \x7d .b \x7b p: 0 \x7d .a \x7b q: 0; p: 2 \x7d .a \x7b p: 3 \x7d".toList
    AgreeOn e a b ∧ SameValues e e' ∧ (ofStylesheets e a).passed = false ∧
      (ofStylesheets e b).passed = false ∧ (ofStylesheets e' a).passed = false := by
  intro e e' a b
  have hagree : AgreeOn e a b := ⟨by decide +kernel, by decide +kernel⟩
  have heffective := ofStylesheets_effective .merge .lastWins .merge .merge
    ".a \x7b p: 1; p: 2 \x7d".toList ".a \x7b \x7d .a \x7b p: 2 \x7d".toList
    ".a \x7b p: 3 \x7d".toList
    "@media x \x7b \x7d .b \x7b p: 0 \x7d .a \x7b q: 0; p: 2 \x7d .a \x7b p: 3 \x7d".toList
  have hpassed : (ofStylesheets e a).passed = false := by decide +kernel
  exact ⟨hagree, sameValues_overridden, hpassed, (heffective.1 hagree).1.symm.trans hpassed,
    (heffective.2 sameValues_overridden).1.symm.trans hpassed⟩

end Comparison
end StyleSnapshot
