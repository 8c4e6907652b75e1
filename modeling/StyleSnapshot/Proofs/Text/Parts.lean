import Mathlib.Data.List.DropRight
import StyleSnapshot.Text.Blank

/-! Searching a text that goes on.

A search that succeeds in a text succeeds in the same way when more text follows
(`after?_append`, `cut?_append`). It cannot newly succeed there if what follows begins with
a character that the searched text lacks: no occurrence reaches across such a guard. -/
namespace StyleSnapshot.Text

/-- What holds of every character of a text is decided along the text. A search through all
characters that there are would be an instance as well. -/
instance (p : Char → Prop) [DecidablePred p] (t : Text) : Decidable (∀ c ∈ t, p c) :=
  List.decidableBAll p t

theorem after?_self (lead t : Text) : after? lead (lead ++ t) = some t := after?_eq_some_iff.2 rfl

theorem after?_append {lead t rest : Text} (h : after? lead t = some rest) (x : Text) :
    after? lead (t ++ x) = some (rest ++ x) := by
  rw [after?_eq_some_iff.1 h, List.append_assoc]
  exact after?_self lead _

/-- A text found in front of a longer one lies in the part that is long enough to hold it. -/
theorem after?_of_append {lead t x rest : Text} (h : after? lead (t ++ x) = some rest)
    (hlen : lead.length ≤ t.length) : ∃ rest', after? lead t = some rest' := by
  have hprefix : lead <+: t := List.prefix_of_prefix_length_le
    ⟨rest, (after?_eq_some_iff.1 h).symm⟩ (List.prefix_append t x) hlen
  obtain ⟨rest', rfl⟩ := hprefix
  exact ⟨rest', after?_self lead rest'⟩

/-- Whether a text stands in front is decided before a character that it lacks. -/
theorem after?_guard {lead : Text} {c : Char} (h : c ∉ lead) (t x : Text) :
    after? lead (t ++ c :: x) = (after? lead t).map (· ++ c :: x) := by
  induction lead generalizing t with
  | nil => rfl
  | cons a lead ih =>
    have hac : a ≠ c := fun hac => h (hac ▸ List.mem_cons_self)
    cases t with
    | nil => simp [after?, hac]
    | cons d t =>
      by_cases had : a = d
      · simp [after?, had, ih (fun hc => h (List.mem_cons_of_mem _ hc))]
      · simp [after?, had]

theorem cut?_self_of_cons {mark t rest : Text} (h : after? mark t = some rest) :
    cut? mark t = some ([], rest) := by
  cases t with
  | nil => simp [cut?, h]
  | cons c t => simp [cut?, h]

theorem cut?_append {mark t a b : Text} (h : cut? mark t = some (a, b)) (x : Text) :
    cut? mark (t ++ x) = some (a, b ++ x) := by
  induction t generalizing a with
  | nil =>
    obtain ⟨rest, hr, he⟩ := Option.map_eq_some_iff.1 h
    obtain ⟨rfl, rfl⟩ := Prod.mk.inj he
    exact cut?_self_of_cons (after?_append hr x)
  | cons c t ih =>
    have hlen := cut?_length h
    simp only [cut?] at h
    split at h
    · next following hf =>
      obtain ⟨rfl, rfl⟩ := Prod.mk.inj (Option.some.inj h)
      exact cut?_self_of_cons (after?_append hf x)
    · next hnone =>
      obtain ⟨parts, hp, he⟩ := Option.map_eq_some_iff.1 h
      obtain ⟨rfl, rfl⟩ := Prod.mk.inj he
      -- An occurrence at the front of the longer text would already be one of the shorter.
      have hnone' : after? mark (c :: (t ++ x)) = none := by
        refine Option.eq_none_iff_forall_ne_some.2 fun rest hr => ?_
        obtain ⟨rest', hr'⟩ := after?_of_append (t := c :: t) hr (by simp only [hlen]; omega)
        exact Option.some_ne_none _ (hr'.symm.trans hnone)
      simp only [List.cons_append, cut?, hnone', ih hp, Option.map_some]

/-- The first occurrence of a text is the same without what follows it. -/
theorem cut?_of_append {mark a b : Text} (h : cut? mark (a ++ mark ++ b) = some (a, b)) :
    cut? mark (a ++ mark) = some (a, []) := by
  induction a with
  | nil =>
    have hself := after?_self mark []
    rw [List.append_nil] at hself
    exact cut?_self_of_cons hself
  | cons c a ih =>
    simp only [List.cons_append, cut?] at h ⊢
    split at h
    · exact absurd (Prod.mk.inj (Option.some.inj h)).1 (List.cons_ne_nil c a).symm
    · next hnone =>
      have hnone' : after? mark (c :: (a ++ mark)) = none := by
        refine Option.eq_none_iff_forall_ne_some.2 fun rest hr => ?_
        exact Option.some_ne_none _ ((after?_append hr b).symm.trans hnone)
      obtain ⟨parts, hparts, heq⟩ := Option.map_eq_some_iff.1 h
      obtain ⟨h1, h2⟩ := Prod.mk.inj heq
      have hcut : cut? mark (a ++ mark ++ b) = some (a, b) := by
        rw [hparts, ← (List.cons.inj h1).2, ← h2]
      rw [hnone', ih hcut]
      rfl

/-- No occurrence of a text ends behind a guard that it begins before. -/
theorem cut?_guard {mark : Text} {c : Char} (h : c ∉ mark) (hne : mark ≠ []) (t : Text) :
    cut? mark (t ++ [c]) = (cut? mark t).map fun parts => (parts.1, parts.2 ++ [c]) := by
  induction t with
  | nil =>
    have h1 : after? mark [] = none := by
      obtain ⟨a, mark, rfl⟩ := List.exists_cons_of_ne_nil hne
      rfl
    have h2 : after? mark [c] = none := by simpa [h1] using after?_guard h [] []
    simp [cut?, h1, h2]
  | cons d t ih =>
    simp only [List.cons_append, cut?]
    have hguard := after?_guard h (d :: t) []
    rw [List.cons_append] at hguard
    rw [hguard]
    cases after? mark (d :: t) with
    | some following => rfl
    | none => simp only [Option.map_none, ih, Option.map_map]; rfl

/-- A text is cut at a character where that character first stands. -/
theorem cut?_singleton_iff {c : Char} {t a b : Text} :
    cut? [c] t = some (a, b) ↔ t = a ++ c :: b ∧ c ∉ a := by
  induction t generalizing a with
  | nil => simp [cut?, after?]
  | cons d t ih =>
    by_cases hcd : c = d
    · subst hcd
      cases a with
      | nil => simp [cut?, after?]
      | cons e a => simp +contextual [cut?, after?]
    · have hstep : cut? [c] (d :: t) = (cut? [c] t).map fun parts => (d :: parts.1, parts.2) := by
        simp [cut?, after?, hcd]
      rw [hstep, Option.map_eq_some_iff]
      constructor
      · rintro ⟨parts, hcut, heq⟩
        obtain ⟨rfl, rfl⟩ := Prod.mk.inj heq
        obtain ⟨rfl, hc⟩ := ih.1 hcut
        exact ⟨rfl, by simp [hcd, hc]⟩
      · rintro ⟨heq, hc⟩
        cases a with
        | nil => exact absurd (List.cons.inj heq).1.symm hcd
        | cons e a =>
          obtain ⟨rfl, rfl⟩ := List.cons.inj heq
          exact ⟨(a, b), ih.2 ⟨rfl, fun h => hc (List.mem_cons_of_mem _ h)⟩, rfl⟩

/-- A mark of two characters is first found behind text that does not hold it. -/
theorem cut?_pair {x y : Char} (hne : x ≠ y) {a : Text} (h : ¬ [x, y] <:+: a) (b : Text) :
    cut? [x, y] (a ++ [x, y] ++ b) = some (a, b) := by
  induction a with
  | nil => exact cut?_self_of_cons (after?_self [x, y] b)
  | cons c a ih =>
    have hfront : after? [x, y] (c :: (a ++ [x, y] ++ b)) = none := by
      refine Option.eq_none_iff_forall_ne_some.2 fun rest hrest => ?_
      obtain ⟨rfl, htail⟩ := List.cons.inj (after?_eq_some_iff.1 hrest)
      cases a with
      | nil => exact hne (List.cons.inj htail).1
      | cons d a =>
        obtain ⟨rfl, -⟩ := List.cons.inj htail
        exact h ⟨[], a, rfl⟩
    have hrest := ih fun hmem => h (hmem.trans (List.suffix_cons c a).isInfix)
    simp only [List.cons_append, cut?, hfront, hrest, Option.map_some]

/-- No text is found across a character that it lacks. -/
theorem infix_guard {mark : Text} {c : Char} (h : c ∉ mark) {a b : Text} :
    mark <:+: a ++ c :: b ↔ mark <:+: a ∨ mark <:+: b := by
  have hfront {u : Text} (hu : c ∉ u) (hp : u <+: c :: b) : u = [] := by
    cases u with
    | nil => rfl
    | cons d u => exact absurd (List.cons_prefix_cons.1 hp).1 (fun he => hu (by simp [he]))
  constructor
  · intro hm
    rcases List.infix_append_iff.1 hm with hm | hm | ⟨u, v, rfl, hu, hv⟩
    · exact .inl hm
    · rcases List.infix_cons_iff.1 hm with hm | hm
      · exact .inl (hfront h hm ▸ List.nil_infix)
      · exact .inr hm
    · rw [hfront (fun hc => h (List.mem_append_right _ hc)) hv, List.append_nil]
      exact .inl hu.isInfix
  · intro hm
    rcases hm with hm | hm
    · exact hm.trans (List.prefix_append a _).isInfix
    · exact hm.trans ((List.suffix_cons c b).trans (List.suffix_append a _)).isInfix

/-- A text is mentioned where it stands somewhere within. -/
theorem mentions_iff {mark t : Text} : mentions mark t = true ↔ mark <:+: t := by
  constructor
  · intro h
    obtain ⟨⟨a, b⟩, hcut⟩ := Option.isSome_iff_exists.1 h
    exact ⟨a, b, (eq_of_cut? hcut).symm⟩
  · rintro ⟨a, b, rfl⟩
    induction a with
    | nil => rw [List.nil_append, mentions, cut?_self_of_cons (after?_self mark b)]; rfl
    | cons c a ih =>
      simp only [mentions, List.cons_append, cut?] at ih ⊢
      split
      · rfl
      · rwa [Option.isSome_map]

theorem cut?_eq_none_iff {mark t : Text} : cut? mark t = none ↔ ¬ mark <:+: t := by
  rw [← mentions_iff, mentions, Bool.not_eq_true, Option.isSome_eq_false_iff, Option.isNone_iff_eq_none]

/-- Whatever is dropped in front, it ends before a character that is not. -/
theorem dropWhile_guard {p : Char → Bool} {c : Char} (h : p c = false) (t x : Text) :
    (t ++ c :: x).dropWhile p = t.dropWhile p ++ c :: x := by
  induction t with
  | nil => simp [h]
  | cons d t ih =>
    by_cases hd : p d = true
    · simp [hd, ih]
    · simp [hd]

/-- A run of characters ends at the first that is not of its kind. -/
theorem takeWhile_run {p : Char → Bool} {c : Char} (hc : p c = false) {w : Text}
    (hw : ∀ d ∈ w, p d = true) (x : Text) : (w ++ c :: x).takeWhile p = w := by
  rw [List.takeWhile_append_of_pos hw]
  simp [hc]

theorem dropWhile_run {p : Char → Bool} {c : Char} (hc : p c = false) {w : Text}
    (hw : ∀ d ∈ w, p d = true) (x : Text) : (w ++ c :: x).dropWhile p = c :: x := by
  rw [List.dropWhile_append_of_pos hw]
  simp [hc]

theorem dropEndWhile_run {p : Char → Bool} {c : Char} (hc : p c = false) {w : Text}
    (hw : ∀ d ∈ w, p d = true) (t : Text) : dropEndWhile p (t ++ c :: w) = t ++ [c] := by
  have hreverse : (t ++ c :: w).reverse = w.reverse ++ c :: t.reverse := by simp
  rw [dropEndWhile, hreverse, dropWhile_run hc fun d hd => hw d (List.mem_reverse.1 hd)]
  simp

/-! ### Blanks at the ends -/

theorem trimStart_append {w : Text} (h : ∀ c ∈ w, isBlank c = true) (t : Text) :
    trimStart (w ++ t) = trimStart t := by
  induction w with
  | nil => rfl
  | cons c w ih =>
    have hc := h c List.mem_cons_self
    simpa [trimStart, hc] using ih fun d hd => h d (List.mem_cons_of_mem _ hd)

theorem trimStart_cons_of_not_blank {c : Char} (h : isBlank c = false) (t : Text) :
    trimStart (c :: t) = c :: t := by
  simp [trimStart, h]

theorem trimStart_eq_self {t : Text} (h : ∀ c, t.head? = some c → isBlank c = false) :
    trimStart t = t := by
  cases t with
  | nil => rfl
  | cons c t => exact trimStart_cons_of_not_blank (h c rfl) t

theorem trimStart_trimStart (t : Text) : trimStart (trimStart t) = trimStart t :=
  List.dropWhile_idempotent isBlank t

theorem trimStart_concat {c : Char} (h : isBlank c = true) (t : Text) :
    trimStart (t ++ [c]) = if trimStart t = [] then [] else trimStart t ++ [c] := by
  rw [trimStart, trimStart, List.dropWhile_append]
  by_cases hnil : t.dropWhile isBlank = []
  · simp [hnil, h]
  · simp [hnil]

/-- A text is some blanks and its form without them. -/
theorem exists_blanks_trimStart (t : Text) :
    ∃ w, (∀ c ∈ w, isBlank c = true) ∧ t = w ++ trimStart t :=
  ⟨t.takeWhile isBlank, fun _ hc => List.mem_takeWhile_imp hc,
    List.takeWhile_append_dropWhile.symm⟩

theorem trimEnd_run {c : Char} (hc : isBlank c = false) {w : Text} (hw : ∀ d ∈ w, isBlank d = true)
    (t : Text) : trimEnd (t ++ c :: w) = t ++ [c] := dropEndWhile_run hc hw t

/-- A text is what is left when its end is dropped and the characters that were dropped. -/
theorem exists_dropEndWhile (p : Char → Bool) (t : Text) :
    ∃ w, (∀ c ∈ w, p c = true) ∧ t = dropEndWhile p t ++ w := by
  refine ⟨(t.reverse.takeWhile p).reverse, fun c hc => ?_, ?_⟩
  · exact List.mem_takeWhile_imp (List.mem_reverse.1 hc)
  · rw [dropEndWhile, ← List.reverse_append, List.takeWhile_append_dropWhile, List.reverse_reverse]

/-- A text is its trimmed form and some blanks behind it. -/
theorem trimEnd_append_blanks (t : Text) :
    ∃ w, (∀ c ∈ w, isBlank c = true) ∧ t = trimEnd t ++ w := exists_dropEndWhile isBlank t

theorem mem_of_mem_trim {c : Char} {t : Text} (h : c ∈ trim t) : c ∈ t := by
  obtain ⟨w, -, heq⟩ := trimEnd_append_blanks (trimStart t)
  have hstart : c ∈ trimStart t := by
    rw [heq]
    exact List.mem_append_left w h
  exact (List.dropWhile_suffix isBlank).mem hstart

theorem length_trim_le (t : Text) : (trim t).length ≤ t.length := by
  have hstart := length_dropWhile_le isBlank t
  have hend := length_dropWhile_le isBlank (trimStart t).reverse
  simp only [List.length_reverse] at hend
  simp only [trim, trimEnd, dropEndWhile, List.length_reverse]
  exact hend.trans hstart

/-- What a text begins with up to its first blank stays when it is trimmed. -/
theorem prefix_trim {lead : Text} (h : ∀ c ∈ lead, isBlank c = false) (rest : Text) :
    lead <+: trim (lead ++ rest) := by
  cases lead with
  | nil => exact List.nil_prefix
  | cons c lead =>
    rw [List.cons_append, trim, trimStart_cons_of_not_blank (h c List.mem_cons_self)]
    obtain ⟨w, hw, heq⟩ := trimEnd_append_blanks (c :: (lead ++ rest))
    rw [← List.cons_append] at heq ⊢
    obtain ⟨x, hx, -⟩ | ⟨x, hx, rfl⟩ := List.append_eq_append_iff.1 heq
    · exact ⟨x, hx.symm⟩
    · cases x with
      | nil => exact ⟨[], by simpa using hx⟩
      | cons d x =>
        have hd := h d (hx ▸ List.mem_append_right _ List.mem_cons_self)
        exact absurd (hd.symm.trans (hw d List.mem_cons_self)) (by decide)

/-- A text that does not begin with a blank still begins as before when it is trimmed. -/
theorem head?_trim {c : Char} {t : Text} (hc : isBlank c = false) (h : t.head? = some c) :
    (trim t).head? = some c := by
  obtain ⟨rest, rfl⟩ := List.head?_eq_some_iff.1 h
  have hprefix : [c] <+: trim ([c] ++ rest) := prefix_trim (by simpa using hc) rest
  obtain ⟨more, heq⟩ := hprefix
  rw [← List.singleton_append, ← heq]
  rfl

theorem not_blank_of_head?_trim {c : Char} {t : Text} (h : (trim t).head? = some c) :
    isBlank c = false := by
  obtain ⟨w, -, heq⟩ := trimEnd_append_blanks (trimStart t)
  have hstart : (t.dropWhile isBlank).head? = some c := by
    rw [← trimStart, heq, List.head?_append, show trimEnd (trimStart t) = trim t from rfl, h]
    rfl
  have hhead := List.head?_dropWhile_not isBlank t
  rwa [hstart] at hhead

/-- A blank at the end makes no word. -/
theorem words_concat {c : Char} (h : isBlank c = true) (t : Text) : words (t ++ [c]) = words t := by
  rw [words, words, List.splitOnP_append_cons t [] h]
  simp

theorem collapse_concat {c : Char} (h : isBlank c = true) (t : Text) :
    collapse (t ++ [c]) = collapse t := by
  rw [collapse, collapse, words_concat h]

end StyleSnapshot.Text
