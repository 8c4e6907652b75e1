import StyleSnapshot.Text.Basic

/-! Lines of a text that is put together from lines. -/
namespace StyleSnapshot.Text

/-- A newline ends a line whatever follows. -/
theorem lines_append (a b : Text) : lines (a ++ '\n' :: b) = lines (a ++ ['\n']) ++ lines b := by
  induction a with
  | nil => rfl
  | cons c a ih =>
    simp only [List.cons_append, lines, ih]
    split
    · rfl
    · cases hl : lines (a ++ ['\n']) with
      | nil =>
        have := flatten_lines (a ++ ['\n'])
        simp [hl] at this
      | cons line more => rfl

theorem lines_line {a : Text} (h : '\n' ∉ a) : lines (a ++ ['\n']) = [a ++ ['\n']] := by
  induction a with
  | nil => rfl
  | cons c a ih =>
    have hc : c ≠ '\n' := fun hc => h (hc ▸ List.mem_cons_self)
    simp [lines, hc, ih fun hmem => h (List.mem_cons_of_mem c hmem)]

theorem newlines_append (a b : Text) : newlines (a ++ b) = newlines a + newlines b :=
  List.count_append

theorem newlines_of_not_mem {a : Text} (h : '\n' ∉ a) : newlines a = 0 := List.count_eq_zero.2 h

theorem length_lines_concat (a : Text) : (lines (a ++ ['\n'])).length = newlines (a ++ ['\n']) := by
  induction a with
  | nil => rfl
  | cons c a ih =>
    simp only [List.cons_append, lines, newlines, List.count_cons] at ih ⊢
    by_cases hc : c = '\n'
    · simp [hc, ih]
    · rw [if_neg hc]
      cases hl : lines (a ++ ['\n']) with
      | nil =>
        have := flatten_lines (a ++ ['\n'])
        simp [hl] at this
      | cons line more =>
        rw [hl] at ih
        simpa [hc] using ih

/-- A text of whole lines. -/
def Whole (t : Text) : Prop := t = [] ∨ ∃ a, t = a ++ ['\n']

theorem Whole.append {a b : Text} (ha : Whole a) (hb : Whole b) : Whole (a ++ b) := by
  rcases hb with rfl | ⟨b, rfl⟩
  · rwa [List.append_nil]
  · exact Or.inr ⟨a ++ b, (List.append_assoc a b ['\n']).symm⟩

theorem Whole.lines_append {t : Text} (h : Whole t) (x : Text) :
    lines (t ++ x) = lines t ++ lines x := by
  rcases h with rfl | ⟨a, rfl⟩
  · rfl
  · rw [List.append_assoc]
    exact Text.lines_append a x

theorem Whole.length_lines {t : Text} (h : Whole t) : (lines t).length = newlines t := by
  rcases h with rfl | ⟨a, rfl⟩
  · rfl
  · exact length_lines_concat a

/-- The first line ends in its only newline, or is the last and has none. -/
theorem lines_eq_cons {t line : Text} {more : List Text} (h : lines t = line :: more) :
    lines more.flatten = more ∧
      ((∃ a, line = a ++ ['\n'] ∧ '\n' ∉ a) ∨ (more = [] ∧ '\n' ∉ line)) := by
  induction t generalizing line more with
  | nil => exact absurd h (List.cons_ne_nil line more).symm
  | cons c rest ih =>
    by_cases hc : c = '\n'
    · rw [lines, if_pos hc] at h
      obtain ⟨rfl, rfl⟩ := List.cons.inj h
      exact ⟨by rw [flatten_lines], .inl ⟨[], rfl, List.not_mem_nil⟩⟩
    · rw [lines, if_neg hc] at h
      split at h
      · obtain ⟨rfl, rfl⟩ := List.cons.inj h
        exact ⟨rfl, .inr ⟨rfl, by simpa using Ne.symm hc⟩⟩
      · next line' more' hrest =>
        obtain ⟨rfl, rfl⟩ := List.cons.inj h
        obtain ⟨hmore, ⟨a, rfl, ha⟩ | ⟨rfl, hline⟩⟩ := ih hrest
        · exact ⟨hmore, .inl ⟨c :: a, rfl, by simpa [Ne.symm hc] using ha⟩⟩
        · exact ⟨hmore, .inr ⟨rfl, by simpa [Ne.symm hc] using hline⟩⟩

theorem newlines_line_le {t line : Text} (h : line ∈ lines t) : newlines line ≤ 1 := by
  generalize hls : lines t = ls at h
  induction ls generalizing t with
  | nil => exact absurd h List.not_mem_nil
  | cons first more ih =>
    obtain ⟨hmore, hfirst⟩ := lines_eq_cons hls
    rcases List.mem_cons.1 h with rfl | h
    · obtain ⟨a, rfl, ha⟩ | ⟨-, hline⟩ := hfirst
      · rw [newlines_append, newlines_of_not_mem ha]
        exact Nat.le_refl 1
      · rw [newlines_of_not_mem hline]
        exact Nat.zero_le 1
    · exact ih hmore h

theorem newlines_flatten_le {ls : List Text} (h : ∀ line ∈ ls, newlines line ≤ 1) :
    newlines ls.flatten ≤ ls.length := by
  induction ls with
  | nil => exact Nat.le_refl 0
  | cons line ls ih =>
    have hline := h line List.mem_cons_self
    have hrest := ih fun l hl => h l (List.mem_cons_of_mem line hl)
    rw [List.flatten_cons, newlines_append, List.length_cons]
    omega

/-- Lines in front of another one are whole, and each ends in its only newline. -/
theorem whole_of_lines_eq_append {t : Text} {ls : List Text} {line : Text} {more : List Text}
    (h : lines t = ls ++ line :: more) : Whole ls.flatten ∧ newlines ls.flatten = ls.length := by
  induction ls generalizing t with
  | nil => exact ⟨.inl rfl, rfl⟩
  | cons first ls ih =>
    obtain ⟨hmore, ⟨a, rfl, ha⟩ | ⟨hnil, -⟩⟩ := lines_eq_cons (h.trans (List.cons_append ..))
    · obtain ⟨hwhole, hcount⟩ := ih hmore
      rw [List.flatten_cons]
      refine ⟨Whole.append (.inr ⟨a, rfl⟩) hwhole, ?_⟩
      rw [newlines_append, newlines_append, newlines_of_not_mem ha, hcount, List.length_cons,
        Nat.add_comm ls.length]
      rfl
    · simp at hnil

end StyleSnapshot.Text
