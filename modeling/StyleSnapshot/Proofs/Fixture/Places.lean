import StyleSnapshot.Fixture.Assertion
import StyleSnapshot.Proofs.Text.Places

/-! The first place where something is recognized.

`firstPlace?_eq_some_iff` says where that is: behind a stretch of text in which nothing is
recognized. Two recognizers that are tried at once find the nearer of what each finds by
itself (`firstPlaceWithin?_or`). `at?` is what is recognized at a place that is counted
from the beginning of a text. -/
namespace StyleSnapshot.Fixture

section Places
variable {β γ : Type} {recognize : Option Char → Text → Option β}

theorem firstPlace?_of_some {before : Option Char} {c : Char} {t : Text} {b : β}
    (h : recognize before (c :: t) = some b) : firstPlace? recognize before (c :: t) = some (0, b) := by
  rw [firstPlace?, h]

theorem firstPlace?_clear {before : Option Char} {t rest : Text}
    (h : Text.Clear recognize before t rest) : firstPlace? recognize before (t ++ rest) =
      (firstPlace? recognize (Text.endOf before t) rest).map fun found =>
        (t.length + found.1, found.2) := by
  induction t generalizing before with
  | nil => simp [Text.endOf]
  | cons c t ih =>
    have hfirst : firstPlace? recognize before (c :: (t ++ rest)) =
        (firstPlace? recognize (some c) (t ++ rest)).map fun found => (found.1 + 1, found.2) := by
      have hnone : recognize before (c :: (t ++ rest)) = none := h.1
      rw [firstPlace?, hnone]
    rw [List.cons_append, hfirst, ih h.2, Option.map_map]
    congr 1
    funext found
    simp only [Function.comp, List.length_cons, Prod.mk.injEq, and_true]
    omega

theorem firstPlace?_eq_none_iff {before : Option Char} {t : Text} :
    firstPlace? recognize before t = none ↔ Text.Clear recognize before t [] := by
  induction t generalizing before with
  | nil => exact ⟨fun _ => trivial, fun _ => rfl⟩
  | cons c t ih =>
    rw [Text.Clear, List.append_nil, ← ih, firstPlace?]
    cases recognize before (c :: t) with
    | none => simp
    | some found => simp

/-- The first place is the one behind text in which nothing is recognized. -/
theorem firstPlace?_eq_some_iff {before : Option Char} {t : Text} {n : Nat} {b : β} :
    firstPlace? recognize before t = some (n, b) ↔
      ∃ skipped c rest, t = skipped ++ c :: rest ∧ skipped.length = n ∧
        recognize (Text.endOf before skipped) (c :: rest) = some b ∧
        Text.Clear recognize before skipped (c :: rest) := by
  constructor
  · intro h
    induction t generalizing before n with
    | nil => simp [firstPlace?] at h
    | cons c t ih =>
      rw [firstPlace?] at h
      split at h
      · next found hfound =>
        obtain ⟨rfl, rfl⟩ := Prod.mk.inj (Option.some.inj h)
        exact ⟨[], c, t, rfl, rfl, hfound, trivial⟩
      · next hnone =>
        obtain ⟨⟨m, b'⟩, hm, heq⟩ := Option.map_eq_some_iff.1 h
        obtain ⟨rfl, rfl⟩ := Prod.mk.inj heq
        obtain ⟨skipped, d, rest, rfl, rfl, hfound, hclear⟩ := ih hm
        exact ⟨c :: skipped, d, rest, rfl, rfl, hfound, hnone, hclear⟩
  · rintro ⟨skipped, c, rest, rfl, rfl, hfound, hclear⟩
    rw [firstPlace?_clear hclear, firstPlace?_of_some hfound]
    rfl

theorem firstPlace?_lt_length {before : Option Char} {t : Text} {found : Nat × β}
    (h : firstPlace? recognize before t = some found) : found.1 < t.length := by
  obtain ⟨n, b⟩ := found
  obtain ⟨skipped, c, rest, rfl, rfl, -, -⟩ := firstPlace?_eq_some_iff.1 h
  simp

theorem firstPlaceWithin?_eq_some_iff {window : Nat} {before : Option Char} {t : Text} {n : Nat}
    {b : β} : firstPlaceWithin? recognize window before t = some (n, b) ↔
      firstPlace? recognize before t = some (n, b) ∧ Text.byteLength (t.take n) ≤ window := by
  rw [firstPlaceWithin?_eq, Option.filter_eq_some_iff, decide_eq_true_iff]

/-- A window as large as the text is none. -/
theorem firstPlace?_eq_within (recognize : Option Char → Text → Option β) (before : Option Char)
    (t : Text) :
    firstPlace? recognize before t = firstPlaceWithin? recognize (Text.byteLength t) before t := by
  rw [firstPlaceWithin?_eq]
  cases firstPlace? recognize before t with
  | none => rfl
  | some found =>
    have hsplit := Text.byteLength_append (t.take found.1) (t.drop found.1)
    rw [List.take_append_drop] at hsplit
    rw [Option.filter_some, if_pos (decide_eq_true (by omega))]

theorem firstPlaceWithin?_of_some {window : Nat} {before : Option Char} {c : Char} {t : Text} {b : β}
    (h : recognize before (c :: t) = some b) :
    firstPlaceWithin? recognize window before (c :: t) = some (0, b) := by
  rw [firstPlaceWithin?, h]

theorem firstPlaceWithin?_of_none {window : Nat} {before : Option Char} {c : Char} {t : Text}
    (h : recognize before (c :: t) = none) : firstPlaceWithin? recognize window before (c :: t) =
      if c.utf8Size ≤ window then
        (firstPlaceWithin? recognize (window - c.utf8Size) (some c) t).map fun found =>
          (found.1 + 1, found.2)
      else none := by
  rw [firstPlaceWithin?, h]

/-- The nearer of two places, the first where they are one. -/
def nearer : Option (Nat × β) → Option (Nat × β) → Option (Nat × β)
  | some p, some q => if q.1 < p.1 then some q else some p
  | some p, none => some p
  | none, q => q

theorem nearer_zero (b : β) (q : Option (Nat × β)) : nearer (some (0, b)) q = some (0, b) := by
  cases q <;> rfl

theorem nearer_of_behind {p : Option (Nat × β)} (h : ∀ found ∈ p, 0 < found.1) (b : β) :
    nearer p (some (0, b)) = some (0, b) := by
  cases p with
  | none => rfl
  | some found => exact if_pos (h found rfl)

theorem nearer_succ (p q : Option (Nat × β)) :
    nearer (p.map fun found => (found.1 + 1, found.2)) (q.map fun found => (found.1 + 1, found.2)) =
      (nearer p q).map fun found => (found.1 + 1, found.2) := by
  cases p <;> cases q <;> simp only [nearer, Option.map_some, Option.map_none, Nat.add_lt_add_iff_right]
  split <;> rfl

/-- Two recognizers that are tried at once. -/
theorem firstPlaceWithin?_or (f g : Option Char → Text → Option β) (window : Nat)
    (before : Option Char) (t : Text) :
    firstPlaceWithin? (fun before t => (f before t).or (g before t)) window before t =
      nearer (firstPlaceWithin? f window before t) (firstPlaceWithin? g window before t) := by
  induction t generalizing window before with
  | nil => rfl
  | cons c t ih =>
    cases hf : f before (c :: t) with
    | some b =>
      rw [firstPlaceWithin?_of_some hf, firstPlaceWithin?_of_some (b := b) (by rw [hf, Option.some_or]),
        nearer_zero]
    | none =>
      rw [firstPlaceWithin?_of_none hf]
      cases hg : g before (c :: t) with
      | some b =>
        rw [firstPlaceWithin?_of_some hg, firstPlaceWithin?_of_some (b := b) (by rw [hf, hg, Option.none_or]),
          nearer_of_behind]
        intro found hfound
        split at hfound
        · obtain ⟨_, -, rfl⟩ := Option.map_eq_some_iff.1 hfound
          exact Nat.succ_pos _
        · exact absurd hfound (Option.not_mem_none _)
      | none =>
        rw [firstPlaceWithin?_of_none hg, firstPlaceWithin?_of_none (by rw [hf, hg, Option.none_or]), ih]
        split
        · exact (nearer_succ _ _).symm
        · rfl

theorem firstPlace?_or (f g : Option Char → Text → Option β) (before : Option Char) (t : Text) :
    firstPlace? (fun before t => (f before t).or (g before t)) before t =
      nearer (firstPlace? f before t) (firstPlace? g before t) := by
  rw [firstPlace?_eq_within, firstPlace?_eq_within f, firstPlace?_eq_within g, firstPlaceWithin?_or]

theorem firstPlaceWithin?_map (φ : β → γ) (window : Nat) (before : Option Char) (t : Text) :
    firstPlaceWithin? (fun before t => (recognize before t).map φ) window before t =
      (firstPlaceWithin? recognize window before t).map fun found => (found.1, φ found.2) := by
  induction t generalizing window before with
  | nil => rfl
  | cons c t ih =>
    simp only [firstPlaceWithin?]
    cases recognize before (c :: t) with
    | some b => rfl
    | none =>
      simp only [Option.map_none, ih]
      split
      · simp [Option.map_map, Function.comp_def]
      · rfl

theorem firstPlace?_map (φ : β → γ) (before : Option Char) (t : Text) :
    firstPlace? (fun before t => (recognize before t).map φ) before t =
      (firstPlace? recognize before t).map fun found => (found.1, φ found.2) := by
  rw [firstPlace?_eq_within, firstPlaceWithin?_map, ← firstPlace?_eq_within]

/-! ### Places counted from the beginning -/

theorem charBefore_append (t x : Text) : charBefore (t ++ x) t.length = Text.endOf none t := by
  rcases List.eq_nil_or_concat t with rfl | ⟨t, c, rfl⟩
  · rfl
  · rw [List.concat_eq_append, Text.endOf_concat, List.length_append, List.length_singleton, charBefore]
    simp

/-- What is recognized at a place of a text. -/
def at? (recognize : Option Char → Text → Option β) (t : Text) (place : Nat) : Option β :=
  recognize (charBefore t place) (t.drop place)

theorem at?_append (recognize : Option Char → Text → Option β) (t x : Text) :
    at? recognize (t ++ x) t.length = recognize (Text.endOf none t) x := by
  rw [at?, charBefore_append, List.drop_left]

/-- Behind its first character a part of a text is recognized as in the whole. -/
theorem at?_drop (recognize : Option Char → Text → Option β) (t : Text) (n k : Nat) :
    at? recognize (t.drop n) (k + 1) = at? recognize t (n + (k + 1)) := by
  rw [at?, at?, List.drop_drop]
  simp [charBefore]

theorem clear_iff_at {t rest : Text} : Text.Clear recognize none t rest ↔
    ∀ place < t.length, at? recognize (t ++ rest) place = none := by
  rw [Text.clear_iff]
  constructor
  · intro h place hplace
    have hsplit : t = t.take place ++ t[place] :: t.drop (place + 1) := by simp
    have hnone := h _ _ _ hsplit
    rw [← at?_append recognize, ← List.append_assoc, ← hsplit, List.length_take,
      Nat.min_eq_left (Nat.le_of_lt hplace)] at hnone
    exact hnone
  · rintro h a c b rfl
    have hnone := h a.length (by simp)
    rwa [List.append_assoc, at?_append] at hnone

theorem firstPlace?_eq_some_iff_at {t : Text} {n : Nat} {b : β} :
    firstPlace? recognize none t = some (n, b) ↔
      n < t.length ∧ at? recognize t n = some b ∧ ∀ place < n, at? recognize t place = none := by
  rw [firstPlace?_eq_some_iff]
  constructor
  · rintro ⟨skipped, c, rest, rfl, rfl, hfound, hclear⟩
    exact ⟨by simp, by rwa [at?_append], clear_iff_at.1 hclear⟩
  · rintro ⟨hlt, hfound, hnone⟩
    have hsplit : t.take n ++ t[n] :: t.drop (n + 1) = t := by simp
    have hlength : (t.take n).length = n := List.length_take_of_le (Nat.le_of_lt hlt)
    refine ⟨t.take n, t[n], t.drop (n + 1), hsplit.symm, hlength, ?_, ?_⟩
    · rwa [← at?_append recognize, hsplit, hlength]
    · refine clear_iff_at.2 fun place hplace => ?_
      rw [hsplit]
      exact hnone place (hlength ▸ hplace)

end Places

theorem anchor?_of_after? {t : Text} (h : Text.after? anchorText t = none) (before : Option Char) :
    anchor? before t = none := by
  rw [anchor?, Text.startsWith, h, Option.isSome_none, Bool.and_false]
  rfl

end StyleSnapshot.Fixture
