import StyleSnapshot.Text.Basic

/-! Rows of texts.

A row without repetitions keeps the first of each text, and a sorted row forgets the order in
which its texts came (`sort_eq_of_perm`). -/
namespace StyleSnapshot.Text

/-! ### Repetitions -/

theorem nodup_eraseDups (ts : List Text) : ts.eraseDups.Nodup := by
  -- A text takes its repetitions out of all that follow, so the induction is on the length.
  induction hn : ts.length using Nat.strongRecOn generalizing ts with
  | ind n ih =>
    cases ts with
    | nil => exact List.nodup_nil
    | cons t rest =>
      rw [List.eraseDups_cons]
      have hlen := List.length_filter_le (fun b => !b == t) rest
      simp only [List.length_cons] at hn
      refine List.nodup_cons.2 ⟨fun hmem => ?_, ih _ (by omega) _ rfl⟩
      simp [List.mem_eraseDups] at hmem

theorem eraseDups_concat (ts : List Text) (t : Text) :
    (ts ++ [t]).eraseDups = if t ∈ ts then ts.eraseDups else ts.eraseDups ++ [t] := by
  rw [List.eraseDups_append]
  by_cases h : t ∈ ts <;> simp [List.removeAll, h, List.eraseDups_cons]

/-! ### Order -/

theorem sort_perm (ts : List Text) : (sort ts).Perm ts := List.mergeSort_perm ts _

theorem pairwise_sort (ts : List Text) : (sort ts).Pairwise fun a b => ¬ b < a := by
  have htrans (a b c : Text) (hab : (!decide (b < a)) = true) (hbc : (!decide (c < b)) = true) :
      (!decide (c < a)) = true := by
    simp only [Bool.not_eq_true', decide_eq_false_iff_not, List.not_lt] at *
    exact List.le_trans hab hbc
  have htotal (a b : Text) : (!decide (b < a) || !decide (a < b)) = true := by
    simp only [Bool.or_eq_true, Bool.not_eq_true', decide_eq_false_iff_not, List.not_lt]
    exact List.le_total a b
  refine (List.pairwise_mergeSort htrans htotal ts).imp ?_
  intro a b h
  simpa using h

/-- A row in order stays. -/
theorem sort_of_pairwise {ts : List Text} (h : ts.Pairwise fun a b => ¬ b < a) : sort ts = ts := by
  apply List.mergeSort_of_pairwise
  exact h.imp fun hab => by simpa using hab

/-- Sorting forgets the order. -/
theorem sort_eq_of_perm {ts us : List Text} (h : ts.Perm us) : sort ts = sort us := by
  have hperm : (sort ts).Perm (sort us) := (sort_perm ts).trans (h.trans (sort_perm us).symm)
  apply List.Perm.eq_of_pairwise _ (pairwise_sort ts) (pairwise_sort us) hperm
  intro a b _ _ hba hab
  exact List.le_antisymm hba hab

end StyleSnapshot.Text
