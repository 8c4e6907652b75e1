import StyleSnapshot.Proofs.Text.Parts

/-! The words of a text.

A text is its words with blanks between and around them. Collapsing keeps the words and
nothing else (`words_collapse`), so a second time changes nothing. The result is `Spaced`: it
has no blanks but single spaces between words. Read from the front, the collapsed text goes
along with the trimmed one up to the first blank (`collapse_eq_append_iff`), and both end in
the same character. -/
namespace StyleSnapshot.Text

/-! ### Trimmed texts -/

theorem trimEnd_eq_self {t : Text} (h : ∀ c, t.getLast? = some c → isBlank c = false) :
    trimEnd t = t := by
  have hstart : trimStart t.reverse = t.reverse :=
    trimStart_eq_self fun c hc => h c (by rwa [List.head?_reverse] at hc)
  show (trimStart t.reverse).reverse = t
  rw [hstart, List.reverse_reverse]

theorem not_blank_of_getLast?_trim {c : Char} {t : Text} (h : (trim t).getLast? = some c) :
    isBlank c = false := by
  have hlast : ((trimStart t).reverse.dropWhile isBlank).head? = some c := by
    rwa [trim, trimEnd, dropEndWhile, List.getLast?_reverse] at h
  have hhead := List.head?_dropWhile_not isBlank (trimStart t).reverse
  rwa [hlast] at hhead

/-- A text is trimmed if there is a blank at neither end. -/
theorem trim_eq_self_iff {t : Text} : trim t = t ↔
    (∀ c, t.head? = some c → isBlank c = false) ∧
      ∀ c, t.getLast? = some c → isBlank c = false := by
  constructor
  · intro h
    rw [← h]
    exact ⟨fun c => not_blank_of_head?_trim, fun c => not_blank_of_getLast?_trim⟩
  · rintro ⟨hhead, hlast⟩
    rw [trim, trimStart_eq_self hhead, trimEnd_eq_self hlast]

theorem trim_trim (t : Text) : trim (trim t) = trim t :=
  trim_eq_self_iff.2 ⟨fun _ => not_blank_of_head?_trim, fun _ => not_blank_of_getLast?_trim⟩

/-- A text is its trimmed form and some blanks on either side. -/
theorem exists_blanks (t : Text) : ∃ before after, (∀ c ∈ before, isBlank c = true) ∧
    (∀ c ∈ after, isBlank c = true) ∧ t = before ++ trim t ++ after := by
  obtain ⟨after, hafter, heq⟩ := trimEnd_append_blanks (trimStart t)
  refine ⟨t.takeWhile isBlank, after, fun c hc => List.mem_takeWhile_imp hc, hafter, ?_⟩
  calc t = t.takeWhile isBlank ++ trimStart t := List.takeWhile_append_dropWhile.symm
    _ = t.takeWhile isBlank ++ (trim t ++ after) := congrArg _ heq
    _ = t.takeWhile isBlank ++ trim t ++ after := (List.append_assoc _ _ _).symm

theorem trim_blank_cons {c : Char} (h : isBlank c = true) (t : Text) : trim (c :: t) = trim t := by
  simp [trim, trimStart, h]

theorem trim_concat {c : Char} (h : isBlank c = true) (t : Text) : trim (t ++ [c]) = trim t := by
  rw [trim, trimStart_concat h, trim]
  by_cases hnil : trimStart t = []
  · simp [hnil]
  · simp [hnil, trimEnd, dropEndWhile, h]

/-! ### Words -/

theorem not_blank_of_any {t : Text} (h : t.any isBlank = false) : ∀ c ∈ t, isBlank c = false := by
  simpa using h

/-- A piece of a text between separators is a part of it without a separator. -/
theorem of_mem_splitOnP {p : Char → Bool} {t w : Text} (h : w ∈ t.splitOnP p) :
    ∀ c ∈ w, c ∈ t ∧ p c = false := by
  induction t generalizing w with
  | nil => simp_all [List.splitOnP_nil]
  | cons d t ih =>
    rw [List.splitOnP_cons_eq_if_modifyHead] at h
    by_cases hd : p d = true
    · rw [if_pos hd] at h
      rcases List.mem_cons.1 h with rfl | h
      · simp
      · exact fun c hc => ⟨List.mem_cons_of_mem _ (ih h c hc).1, (ih h c hc).2⟩
    · obtain ⟨first, more, hsplit⟩ := List.exists_cons_of_ne_nil (List.splitOnP_ne_nil p t)
      rw [if_neg hd, hsplit, List.modifyHead_cons] at h
      rcases List.mem_cons.1 h with rfl | h
      · intro c hc
        rcases List.mem_cons.1 hc with rfl | hc
        · exact ⟨List.mem_cons_self, by simpa using hd⟩
        · have := ih (hsplit ▸ List.mem_cons_self) c hc
          exact ⟨List.mem_cons_of_mem _ this.1, this.2⟩
      · intro c hc
        have := ih (hsplit ▸ List.mem_cons_of_mem _ h) c hc
        exact ⟨List.mem_cons_of_mem _ this.1, this.2⟩

theorem of_mem_words {t w : Text} (h : w ∈ words t) : w ≠ [] ∧ ∀ c ∈ w, isBlank c = false := by
  obtain ⟨hmem, hne⟩ := List.mem_filter.1 h
  exact ⟨by simpa using hne, fun c hc => (of_mem_splitOnP hmem c hc).2⟩

/-- A blank ends the words before it. -/
theorem words_append_blank {c : Char} (h : isBlank c = true) (a b : Text) :
    words (a ++ c :: b) = words a ++ words b := by
  rw [words, List.splitOnP_append_cons a b h, List.filter_append]
  rfl

theorem words_blank_cons {c : Char} (h : isBlank c = true) (t : Text) : words (c :: t) = words t :=
  words_append_blank h [] t

theorem words_of_not_blank {w : Text} (hne : w ≠ []) (h : ∀ c ∈ w, isBlank c = false) :
    words w = [w] := by
  rw [words, List.splitOnP_eq_singleton h]
  simp [hne]

theorem words_blanks_append {w : Text} (h : ∀ c ∈ w, isBlank c = true) (t : Text) :
    words (w ++ t) = words t := by
  induction w with
  | nil => rfl
  | cons c w ih =>
    rw [List.cons_append, words_blank_cons (h c List.mem_cons_self)]
    exact ih fun d hd => h d (List.mem_cons_of_mem _ hd)

theorem words_append_blanks {w : Text} (h : ∀ c ∈ w, isBlank c = true) (t : Text) :
    words (t ++ w) = words t := by
  induction w generalizing t with
  | nil => rw [List.append_nil]
  | cons c w ih =>
    rw [List.append_cons, ih (fun d hd => h d (List.mem_cons_of_mem _ hd)),
      words_concat (h c List.mem_cons_self)]

theorem words_trim (t : Text) : words (trim t) = words t := by
  obtain ⟨before, after, hbefore, hafter, heq⟩ := exists_blanks t
  conv_rhs => rw [heq]
  rw [words_append_blanks hafter, words_blanks_append hbefore]

/-! ### Collapsed texts -/

theorem words_join {ws : List Text} (h : ∀ w ∈ ws, w ≠ [] ∧ ∀ c ∈ w, isBlank c = false) :
    words (join [' '] ws) = ws := by
  induction ws with
  | nil => rfl
  | cons w ws ih =>
    obtain ⟨hne, hplain⟩ := h w List.mem_cons_self
    have hword := words_of_not_blank hne hplain
    cases ws with
    | nil => exact hword
    | cons v ws =>
      have hrest := ih fun u hu => h u (List.mem_cons_of_mem _ hu)
      have hjoin : join [' '] (w :: v :: ws) = w ++ ' ' :: join [' '] (v :: ws) := by
        simp [join]
      rw [hjoin, words_append_blank (by decide), hword, hrest]
      rfl

theorem words_collapse (t : Text) : words (collapse t) = words t :=
  words_join fun _ => of_mem_words

theorem collapse_collapse (t : Text) : collapse (collapse t) = collapse t := by
  rw [collapse, words_collapse, ← collapse]

theorem collapse_trim (t : Text) : collapse (trim t) = collapse t := by
  rw [collapse, words_trim, ← collapse]

theorem collapse_blank_cons {c : Char} (h : isBlank c = true) (t : Text) :
    collapse (c :: t) = collapse t := by
  rw [collapse, words_blank_cons h, ← collapse]

/-- What becomes of the text behind a character that is not blank: the blanks it begins
with are one space, if another word follows. -/
def collapseBehind (t : Text) : Text :=
  if t.head?.any isBlank ∧ words t ≠ [] then ' ' :: collapse t else collapse t

theorem collapse_cons {c : Char} (h : isBlank c = false) (t : Text) :
    collapse (c :: t) = c :: collapseBehind t := by
  have hword : words [c] = [[c]] := words_of_not_blank (by simp) (by simpa using h)
  cases t with
  | nil => rw [collapse, hword]; rfl
  | cons d t =>
    by_cases hd : isBlank d = true
    · -- The character is a word by itself.
      have hwords : words (c :: d :: t) = [c] :: words t := by
        have := words_append_blank hd [c] t
        rwa [hword] at this
      rw [collapse, hwords, collapseBehind, collapse_blank_cons hd, words_blank_cons hd]
      cases hrest : words t with
      | nil => simp [join, collapse, hrest]
      | cons w ws => simp [join, collapse, hrest, hd]
    · -- It is the beginning of the word behind it.
      have hd' : isBlank d = false := by simpa using hd
      obtain ⟨w, ws, hsplit⟩ := List.exists_cons_of_ne_nil (List.splitOnP_ne_nil isBlank t)
      have hwords : words (d :: t) = (d :: w) :: ws.filter (fun w => !w.isEmpty) := by
        simp [words, List.splitOnP_cons_eq_if_modifyHead, hsplit, hd']
      have hwords' : words (c :: d :: t) = (c :: d :: w) :: ws.filter (fun w => !w.isEmpty) := by
        simp [words, List.splitOnP_cons_eq_if_modifyHead, hsplit, hd', h]
      rw [collapse, hwords', collapseBehind, collapse, hwords]
      cases ws.filter (fun w => !w.isEmpty) <;> simp [join, hd']

theorem collapseBehind_nil : collapseBehind [] = [] := rfl

theorem collapseBehind_cons {c : Char} (h : isBlank c = false) (t : Text) :
    collapseBehind (c :: t) = c :: collapseBehind t := by
  rw [← collapse_cons h, collapseBehind]
  simp [h]

/-- Trimmed, a text begins like one behind another word. -/
theorem collapse_eq_collapseBehind (t : Text) : collapse t = collapseBehind (trim t) := by
  rw [← collapse_trim]
  cases ht : trim t with
  | nil => rfl
  | cons c u =>
    have hc : isBlank c = false := not_blank_of_head?_trim (t := t) (by rw [ht]; rfl)
    rw [collapse_cons hc, collapseBehind_cons hc]

theorem collapseBehind_eq_append_iff {p t s : Text} (h : ∀ c ∈ p, isBlank c = false) :
    collapseBehind t = p ++ s ↔ ∃ u, t = p ++ u ∧ collapseBehind u = s := by
  induction p generalizing t with
  | nil => simp
  | cons c p ih =>
    have hc := h c List.mem_cons_self
    have hp : ∀ d ∈ p, isBlank d = false := fun d hd => h d (List.mem_cons_of_mem _ hd)
    cases t with
    | nil => simp [collapseBehind_nil]
    | cons d t =>
      by_cases hd : isBlank d = true
      · have hdc : d ≠ c := fun he => by simp [he, hc] at hd
        have hspace : ' ' ≠ c := fun he => absurd hc (by rw [← he]; decide)
        have hne : collapseBehind (d :: t) ≠ c :: (p ++ s) := by
          rw [collapseBehind, collapse_blank_cons hd, words_blank_cons hd]
          by_cases hwords : words t = []
          · simp [hwords, collapse, join]
          · simp [hwords, hd, hspace]
        simp [hne, hdc]
      · have hd' : isBlank d = false := by simpa using hd
        rw [collapseBehind_cons hd', List.cons_append, List.cons.injEq, ih hp]
        simp only [List.cons_append, List.cons.injEq]
        constructor
        · rintro ⟨he, u, ht, hu⟩
          exact ⟨u, ⟨he, ht⟩, hu⟩
        · rintro ⟨u, ⟨he, ht⟩, hu⟩
          exact ⟨he, u, ht, hu⟩

/-- A collapsed text and the trimmed text are the same up to their first blanks. -/
theorem collapse_eq_append_iff {p t s : Text} (h : ∀ c ∈ p, isBlank c = false) :
    collapse t = p ++ s ↔ ∃ u, trim t = p ++ u ∧ collapseBehind u = s := by
  rw [collapse_eq_collapseBehind]
  exact collapseBehind_eq_append_iff h

theorem head?_collapse {c : Char} {t : Text} (h : (collapse t).head? = some c) :
    isBlank c = false := by
  induction t with
  | nil => simp [collapse, words, List.splitOnP_nil, join] at h
  | cons d t ih =>
    by_cases hd : isBlank d = true
    · rw [collapse_blank_cons hd] at h
      exact ih h
    · have hd' : isBlank d = false := by simpa using hd
      rw [collapse_cons hd'] at h
      rwa [← Option.some.inj h]

theorem getLast?_collapse_concat {c : Char} (h : isBlank c = false) (t : Text) :
    (collapse (t ++ [c])).getLast? = some c := by
  induction t with
  | nil => simp [collapse_cons h, collapseBehind_nil]
  | cons d t ih =>
    by_cases hd : isBlank d = true
    · rwa [List.cons_append, collapse_blank_cons hd]
    · rw [List.cons_append, collapse_cons (by simpa using hd), collapseBehind]
      split <;> simp [List.getLast?_cons, ih]

/-- What is left of a trimmed text still ends as it did. -/
theorem getLast?_collapseBehind {t p u : Text} (h : trim t = p ++ u) :
    (collapseBehind u).getLast? = u.getLast? := by
  rcases List.eq_nil_or_concat u with rfl | ⟨v, c, rfl⟩
  · rfl
  · have hc : isBlank c = false := not_blank_of_getLast?_trim (t := t) (by simp [h])
    have hlast := getLast?_collapse_concat hc v
    rw [collapseBehind]
    split <;> simp [List.getLast?_cons, hlast]

/-- Only blanks are lost. -/
theorem mem_collapse {c : Char} (hc : isBlank c = false) {t : Text} (h : c ∈ t) :
    c ∈ collapse t := by
  induction t with
  | nil => simp at h
  | cons d t ih =>
    by_cases hd : isBlank d = true
    · rw [collapse_blank_cons hd]
      rcases List.mem_cons.1 h with rfl | h
      · simp [hc] at hd
      · exact ih h
    · rw [collapse_cons (by simpa using hd), collapseBehind]
      rcases List.mem_cons.1 h with rfl | h
      · exact List.mem_cons_self
      · split <;> simp [ih h]

/-- A text without blanks but single spaces between words. -/
structure Spaced (t : Text) : Prop where
  trimmed : trim t = t
  space : ∀ c ∈ t, isBlank c = true → c = ' '
  apart : ¬ [' ', ' '] <:+: t

theorem spaced_collapse (t : Text) : Spaced (collapse t) where
  trimmed := by
    refine trim_eq_self_iff.2 ⟨fun c => head?_collapse, fun c hc => ?_⟩
    rw [collapse_eq_collapseBehind, getLast?_collapseBehind (List.nil_append (trim t)).symm] at hc
    exact not_blank_of_getLast?_trim hc
  space c hc hblank := by
    induction t with
    | nil => simp [collapse, words, List.splitOnP_nil, join] at hc
    | cons d t ih =>
      by_cases hd : isBlank d = true
      · rw [collapse_blank_cons hd] at hc
        exact ih hc
      · rw [collapse_cons (by simpa using hd), collapseBehind] at hc
        have hcd : c ≠ d := fun he => hd (he ▸ hblank)
        split at hc <;> simp only [List.mem_cons, hcd, false_or] at hc
        · exact hc.elim id ih
        · exact ih hc
  apart := by
    induction t with
    | nil => decide
    | cons c t ih =>
      by_cases hc : isBlank c = true
      · rwa [collapse_blank_cons hc]
      · have hspace : ' ' ≠ c := fun he => hc (by rw [← he]; decide)
        -- The space behind a word is followed by the first character of another.
        have hfirst : (collapse t).head? ≠ some ' ' := fun h =>
          absurd (head?_collapse h) (by decide)
        rw [collapse_cons (by simpa using hc), collapseBehind]
        split
        · simp only [List.infix_cons_iff, List.cons_prefix_cons, hspace, false_and, false_or, true_and]
          intro h
          rcases h with h | h
          · obtain ⟨rest, hrest⟩ := h
            exact hfirst (by rw [← hrest]; rfl)
          · exact ih h
        · simp only [List.infix_cons_iff, List.cons_prefix_cons, hspace, false_and, false_or]
          exact ih

end StyleSnapshot.Text
