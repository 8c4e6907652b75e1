import StyleSnapshot.Proofs.Dictionary

/-! Counting texts.

What a histogram says of one text is an optional number, and merging adds these numbers
text by text (`get?_merge`). Therefore neither the order nor the grouping of merges
matters. The total of a histogram is the number of meetings it was made from
(`total_add`, `total_merge`). -/
namespace StyleSnapshot.Histogram

/-- The numbers of some entries together. -/
def tally : List (Text × Nat) → Nat
  | [] => 0
  | (_, n) :: rest => n + tally rest

/-- How many texts were met in all. -/
def total (h : Histogram) : Nat := tally h.entries

/-- No text is listed that was not met. -/
def Positive (h : Histogram) : Prop := ∀ key n, h.get? key = some n → 1 ≤ n

/-! ### Look-ups -/

theorem get?_add (h : Histogram) (key k : Text) (n : Nat) :
    (h.add key n).get? k = if k = key then some ((h.get? key).getD 0 + n) else h.get? k :=
  Dictionary.get?_alter h key k _

theorem get?_foldl_add {entries : List (Text × Nat)} (h : Ascending entries) (a : Histogram)
    (key : Text) : (entries.foldl (fun d e => add d e.1 e.2) a).get? key =
      Option.merge (· + ·) (a.get? key) (Dictionary.find? key entries) := by
  induction entries generalizing a with
  | nil => simp [Dictionary.find?]
  | cons e rest ih =>
    obtain ⟨k, n⟩ := e
    obtain ⟨hk, hrest⟩ := List.pairwise_cons.1 h
    rw [List.foldl_cons, ih hrest, get?_add, Dictionary.find?]
    by_cases heq : key = k
    · subst heq
      -- The key is met once, as all later keys are greater.
      have hnone : Dictionary.find? key rest = none := Dictionary.find?_eq_none_of_lt rest hk
      cases a.get? key <;> simp [hnone, Option.merge]
    · simp [heq, Ne.symm heq]

/-- Merging adds what both say of a text. -/
theorem get?_merge (a b : Histogram) (key : Text) :
    (a.merge b).get? key = Option.merge (· + ·) (a.get? key) (b.get? key) :=
  get?_foldl_add b.ascending a key

theorem merge_empty (a : Histogram) : a.merge ∅ = a := rfl

theorem empty_merge (a : Histogram) : merge ∅ a = a := by
  refine Dictionary.ext_get? fun key => ?_
  rw [get?_merge, Dictionary.get?_empty, Option.merge_none_left]

theorem merge_comm (a b : Histogram) : a.merge b = b.merge a := by
  refine Dictionary.ext_get? fun key => ?_
  rw [get?_merge, get?_merge]
  exact Std.Commutative.comm _ _

theorem merge_assoc (a b c : Histogram) : (a.merge b).merge c = a.merge (b.merge c) := by
  refine Dictionary.ext_get? fun key => ?_
  simp only [get?_merge]
  exact Std.Associative.assoc _ _ _

/-! ### Totals -/

theorem tally_alterEntries (key : Text) (n : Nat) (entries : List (Text × Nat)) :
    tally (Dictionary.alterEntries key (fun count => count.getD 0 + n) entries) =
      tally entries + n := by
  induction entries with
  | nil => simp [Dictionary.alterEntries, tally]
  | cons e rest ih =>
    obtain ⟨k, m⟩ := e
    simp only [Dictionary.alterEntries]
    split
    · simp only [Option.getD_none, tally]
      omega
    · split
      · simp only [Option.getD_some, tally]
        omega
      · simp only [tally, ih]
        omega

theorem total_add (h : Histogram) (key : Text) (n : Nat) : (h.add key n).total = h.total + n :=
  tally_alterEntries key n h.entries

theorem total_foldl_add (entries : List (Text × Nat)) (a : Histogram) :
    (entries.foldl (fun d e => add d e.1 e.2) a).total = a.total + tally entries := by
  induction entries generalizing a with
  | nil => rfl
  | cons e rest ih =>
    rw [List.foldl_cons, ih, total_add, tally]
    omega

theorem total_merge (a b : Histogram) : (a.merge b).total = a.total + b.total :=
  total_foldl_add b.entries a

/-! ### Positive counts -/

theorem Positive.add {h : Histogram} (hp : h.Positive) (key : Text) {n : Nat} (hn : 1 ≤ n) :
    (h.add key n).Positive := by
  intro k m hm
  rw [get?_add] at hm
  split at hm
  · have := Option.some.inj hm
    omega
  · exact hp k m hm

theorem Positive.merge {a b : Histogram} (ha : a.Positive) (hb : b.Positive) :
    (a.merge b).Positive := by
  intro key n hn
  rw [get?_merge] at hn
  cases hga : a.get? key with
  | none =>
    rw [hga, Option.merge_none_left] at hn
    exact hb key n hn
  | some x =>
    have hx := ha key x hga
    cases hgb : b.get? key with
    | none =>
      rw [hga, hgb, Option.merge_none_right] at hn
      exact ha key n (hga.trans hn)
    | some y =>
      rw [hga, hgb] at hn
      have : x + y = n := Option.some.inj hn
      omega

end StyleSnapshot.Histogram
