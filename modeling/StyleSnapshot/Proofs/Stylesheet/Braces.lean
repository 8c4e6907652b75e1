import Mathlib.Data.List.TakeWhile
import StyleSnapshot.Proofs.Delimiter
import StyleSnapshot.Proofs.Text.Parts

/-! How braces nest.

`depth?` walks a text and counts the open braces; there is no depth behind a closing brace
that nothing opened. It turns the search for a matching brace into arithmetic: the depth is
zero behind a text that closes what is open (`depth?_eq_zero_iff`), so a search ends at the
brace behind a balanced body, and never looks beyond it. -/
namespace StyleSnapshot

/-! ### The first brace -/

theorem ne_of_not_mem {c : Char} {u : Text} (h : c ∉ u) : ∀ d ∈ u, decide (d ≠ c) = true :=
  fun _ hd => decide_eq_true fun he => h (he ▸ hd)

theorem dropWhile_brace {u : Text} (h : '\x7b' ∉ u) (x : Text) :
    (u ++ '\x7b' :: x).dropWhile (· ≠ '\x7b') = '\x7b' :: x :=
  Text.dropWhile_run (by decide) (ne_of_not_mem h) x

theorem takeWhile_brace {u : Text} (h : '\x7b' ∉ u) (x : Text) :
    (u ++ '\x7b' :: x).takeWhile (· ≠ '\x7b') = u :=
  Text.takeWhile_run (by decide) (ne_of_not_mem h) x

theorem dropWhile_no_brace {u : Text} (h : '\x7b' ∉ u) : u.dropWhile (· ≠ '\x7b') = [] :=
  List.dropWhile_eq_nil_iff.2 (ne_of_not_mem h)

/-! ### The matching brace -/

/-- The search for the brace that closes a block, `nested` further braces being open. -/
abbrev closingFrom? (nested : Nat) (t : Text) : Option Nat :=
  closing? (Marks.chars.under .literal) .braces .plain nested t

/-- How many braces are open behind a text, if `depth` were open in front of it. -/
def depth? : Nat → Text → Option Nat
  | depth, [] => some depth
  | depth, c :: rest =>
    if c = '\x7b' then depth? (depth + 1) rest
    else if c = '\x7d' then
      match depth with
      | 0 => none
      | outer + 1 => depth? outer rest
    else depth? depth rest

/-- Every brace of the text is matched within it. -/
def Balanced (t : Text) : Prop := depth? 0 t = some 0

instance (t : Text) : Decidable (Balanced t) := inferInstanceAs (Decidable (depth? 0 t = some 0))

theorem depth?_append (d : Nat) (a b : Text) : depth? d (a ++ b) = (depth? d a).bind (depth? · b) := by
  induction a generalizing d with
  | nil => rfl
  | cons c a ih =>
    simp only [List.cons_append, depth?]
    split
    · exact ih _
    · split
      · cases d with
        | zero => rfl
        | succ d => exact ih d
      · exact ih d

theorem depth?_of_ne {c : Char} (ho : c ≠ '\x7b') (hc : c ≠ '\x7d') (d : Nat) (t : Text) :
    depth? d (c :: t) = depth? d t := by
  simp only [depth?, ho, hc, if_false]

/-- What the first character does to the depth. -/
theorem depth?_cons_cases {d m : Nat} {c : Char} {t : Text} (h : depth? d (c :: t) = some m) :
    c = '\x7b' ∧ depth? (d + 1) t = some m ∨
      (∃ e, c = '\x7d' ∧ d = e + 1 ∧ depth? e t = some m) ∨
      c ≠ '\x7b' ∧ c ≠ '\x7d' ∧ depth? d t = some m := by
  simp only [depth?] at h
  split at h
  · next ho => exact .inl ⟨ho, h⟩
  · next ho =>
    split at h
    · next hc =>
      cases d with
      | zero => exact absurd h.symm (Option.some_ne_none _)
      | succ e => exact .inr (.inl ⟨e, hc, rfl, h⟩)
    · next hc => exact .inr (.inr ⟨ho, hc, h⟩)

theorem depth?_tail {d m : Nat} {c : Char} {t : Text} (h : depth? d (c :: t) = some m) :
    ∃ e, depth? e t = some m := by
  rcases depth?_cons_cases h with ⟨-, h⟩ | ⟨e, -, -, h⟩ | ⟨-, -, h⟩
  exacts [⟨_, h⟩, ⟨e, h⟩, ⟨d, h⟩]

/-- Further open braces in front stay open. -/
theorem depth?_add {d m : Nat} {t : Text} (h : depth? d t = some m) (k : Nat) :
    depth? (d + k) t = some (m + k) := by
  induction t generalizing d with
  | nil =>
    obtain rfl := Option.some.inj h
    rfl
  | cons c t ih =>
    obtain ⟨rfl, h⟩ | ⟨e, rfl, rfl, h⟩ | ⟨ho, hc, h⟩ := depth?_cons_cases h
    · have := ih h
      rwa [Nat.add_right_comm] at this
    · rw [Nat.add_right_comm]
      exact ih h
    · rw [depth?_of_ne ho hc]
      exact ih h

theorem Balanced.depth? {t : Text} (h : Balanced t) (d : Nat) : depth? d t = some d := by
  have := depth?_add h d
  rwa [Nat.zero_add] at this

theorem depth?_of_not_mem {t : Text} (ho : '\x7b' ∉ t) (hc : '\x7d' ∉ t) (d : Nat) :
    depth? d t = some d := by
  induction t with
  | nil => rfl
  | cons c t ih =>
    rw [depth?_of_ne (fun h => ho (h ▸ List.mem_cons_self)) fun h => hc (h ▸ List.mem_cons_self)]
    exact ih (fun h => ho (List.mem_cons_of_mem _ h)) fun h => hc (List.mem_cons_of_mem _ h)

theorem braceBalance_append (a b : Text) :
    braceBalance (a ++ b) = braceBalance a + braceBalance b := by
  simp only [braceBalance, List.count_append]
  push_cast
  omega

/-- The depth is what a count of the braces says. -/
theorem eq_of_depth? {d m : Nat} {t : Text} (h : depth? d t = some m) :
    (m : Int) = d + braceBalance t := by
  induction t generalizing d with
  | nil =>
    obtain rfl := Option.some.inj h
    simp [braceBalance]
  | cons c t ih =>
    simp only [braceBalance, List.count_cons] at ih ⊢
    obtain ⟨rfl, h⟩ | ⟨e, rfl, rfl, h⟩ | ⟨ho, hc, h⟩ := depth?_cons_cases h
    · have := ih h
      simp only [beq_self_eq_true, if_true, show ('\x7b' == '\x7d') = false by decide,
        Bool.false_eq_true, if_false]
      push_cast at this ⊢
      omega
    · have := ih h
      simp only [beq_self_eq_true, if_true, show ('\x7d' == '\x7b') = false by decide,
        Bool.false_eq_true, if_false]
      push_cast at this ⊢
      omega
    · have := ih h
      simp only [beq_iff_eq, ho, hc, if_false]
      push_cast at this ⊢
      omega

/-- A balanced text that opens no brace closes none. -/
theorem Balanced.not_mem_close {t : Text} (h : Balanced t) (hopen : '\x7b' ∉ t) :
    '\x7d' ∉ t := by
  have hcount := eq_of_depth? h
  rw [braceBalance, List.count_eq_zero.2 hopen] at hcount
  exact List.count_eq_zero.1 (by omega)

theorem closingFrom?_cons (n : Nat) (c : Char) (t : Text) : closingFrom? n (c :: t) =
    if c = '\x7b' then (closingFrom? (n + 1) t).map (· + 1)
    else if c = '\x7d' then
      match n with
      | 0 => some 0
      | outer + 1 => (closingFrom? outer t).map (· + 1)
    else (closingFrom? n t).map (· + 1) := closing?_literal_cons Marks.chars n c t

/-- A character that is no brace ends no search. -/
theorem closingFrom?_concat {c : Char} (ho : c ≠ '\x7b') (hc : c ≠ '\x7d') (n : Nat) (t : Text) :
    closingFrom? n (t ++ [c]) = closingFrom? n t := by
  induction t generalizing n with
  | nil => rw [List.nil_append, closingFrom?_cons, if_neg ho, if_neg hc]; rfl
  | cons d t ih =>
    rw [List.cons_append, closingFrom?_cons, closingFrom?_cons, ih, ih]
    split
    · rfl
    · split
      · cases n with
        | zero => rfl
        | succ n => simp only [ih]
      · rfl

/-- Behind a text that closes all that is open the depth is zero. -/
theorem depth?_eq_zero_iff {d : Nat} {t : Text} : depth? d t = some 0 ↔ Closes .braces d t := by
  have hne : Brackets.braces.opening ≠ Brackets.braces.closing := by decide
  induction t generalizing d with
  | nil => simp [depth?, closes_nil]
  | cons c t ih =>
    simp only [depth?]
    split
    · next ho =>
      subst ho
      exact ih.trans (closes_opening hne).symm
    · next ho =>
      split
      · next hc =>
        subst hc
        refine Iff.trans ?_ (closes_closing hne).symm
        cases d with
        | zero => simp
        | succ outer => simp [ih]
      · next hc => exact ih.trans (closes_other ho hc).symm

/-- The body of a block ends at the first brace that its own braces do not need. -/
theorem closingFrom?_body {body : Text} (h : Balanced body) (rest : Text) :
    closingFrom? 0 (body ++ '\x7d' :: rest) = some body.length :=
  (closing?_eq_some_iff Marks.chars (by decide)).2 ⟨body, rest, rfl, rfl, depth?_eq_zero_iff.1 h⟩

/-- What a search finds is a balanced body and the brace behind it. -/
theorem eq_of_closingFrom? {d n : Nat} {t : Text} (h : closingFrom? d t = some n) :
    ∃ body rest, t = body ++ '\x7d' :: rest ∧ body.length = n ∧ depth? d body = some 0 := by
  obtain ⟨body, rest, heq, hlen, hbody⟩ := (closing?_eq_some_iff Marks.chars (by decide)).1 h
  exact ⟨body, rest, heq, hlen, depth?_eq_zero_iff.2 hbody⟩

/-- A block that is open behind `n` others is closed, if less than it stays open. -/
theorem exists_closingFrom? {n e m : Nat} {t : Text} (h : depth? (e + 1 + n) t = some m)
    (hm : m ≤ e) : ∃ k, closingFrom? n t = some k := by
  induction t generalizing n with
  | nil =>
    have := Option.some.inj h
    omega
  | cons c t ih =>
    have step {n' : Nat} (h : depth? (e + 1 + n') t = some m) :
        ∃ k, (closingFrom? n' t).map (· + 1) = some k := by
      obtain ⟨k, hk⟩ := ih h
      exact ⟨k + 1, by rw [hk]; rfl⟩
    rw [closingFrom?_cons]
    obtain ⟨rfl, h⟩ | ⟨f, rfl, hf, h⟩ | ⟨ho, hc, h⟩ := depth?_cons_cases h
    · rw [if_pos rfl]
      exact step h
    · rw [if_neg (by decide), if_pos rfl]
      cases n with
      | zero => exact ⟨0, rfl⟩
      | succ n =>
        obtain rfl := Nat.succ.inj hf
        exact step h
    · rw [if_neg ho, if_neg hc]
      exact step h

/-- The block behind a prelude is closed if the whole text leaves nothing open. -/
theorem exists_body {d : Nat} {prelude inside : Text}
    (h : depth? d (prelude ++ '\x7b' :: inside) = some 0) :
    ∃ body rest, inside = body ++ '\x7d' :: rest ∧ Balanced body := by
  rw [depth?_append] at h
  obtain ⟨e, -, hinside⟩ := Option.bind_eq_some_iff.1 h
  obtain ⟨n, hn⟩ : ∃ n, closingFrom? 0 inside = some n := exists_closingFrom? hinside (Nat.zero_le e)
  obtain ⟨body, rest, heq, -, hbody⟩ := eq_of_closingFrom? hn
  exact ⟨body, rest, heq, hbody⟩

end StyleSnapshot
