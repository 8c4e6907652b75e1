import StyleSnapshot.Delimiter

/-! Closing delimiters, by counting.

Where no quotation is passed over, a scan can be followed by counting. `Closes` says of a
text that, however much of it has been read, it has closed no more delimiters than were
open, and that at its end it has closed them all. The delimiter that a scan finds is the one
behind such a text (`closing?_eq_some_iff`). -/
namespace StyleSnapshot

/-- What is found in the rest of a text, seen from the front. -/
theorem map_add_succ {k m : Nat} (found : Option Nat) (h : m = k + 1) :
    (found.map (k + ·)).map (· + 1) = found.map (m + ·) := by
  rw [Option.map_map]
  refine Option.map_congr fun n _ => ?_
  simp only [Function.comp, h]
  omega

section Counting
variable {α : Type} [DecidableEq α]

/-- A text that closes the delimiters open in front of it and those that it opens. -/
structure Closes (pair : Brackets α) (depth : Nat) (t : List α) : Prop where
  /-- No beginning of the text closes more than is open. -/
  covered : ∀ n, (t.take n).count pair.closing ≤ depth + (t.take n).count pair.opening
  even : t.count pair.closing = depth + t.count pair.opening

/-- A text that closes exactly what it opens. -/
abbrev Balances (pair : Brackets α) (t : List α) : Prop := Closes pair 0 t

variable {pair : Brackets α}

/-- Beyond its end there is nothing more of a text to look at. -/
instance (pair : Brackets α) (depth : Nat) (t : List α) : Decidable (Closes pair depth t) :=
  decidable_of_iff ((∀ n < t.length, (t.take n).count pair.closing ≤
      depth + (t.take n).count pair.opening) ∧ t.count pair.closing = depth + t.count pair.opening) <| by
    constructor
    · rintro ⟨hcovered, heven⟩
      refine ⟨fun n => ?_, heven⟩
      by_cases hn : n < t.length
      · exact hcovered n hn
      · rw [List.take_of_length_le (Nat.le_of_not_lt hn)]
        exact Nat.le_of_eq heven
    · exact fun h => ⟨fun n _ => h.covered n, h.even⟩

/-- A scan stops at a closing delimiter. -/
theorem closing?_split {marks : Marks α} {place : Place α} {nested n : Nat} {t : List α}
    (h : closing? marks pair place nested t = some n) :
    t = t.take n ++ pair.closing :: t.drop (n + 1) := by
  induction t generalizing place nested n with
  | nil => simp [closing?] at h
  | cons c rest ih =>
    have step {place nested} (h : (closing? marks pair place nested rest).map (· + 1) = some n) :
        c :: rest = (c :: rest).take n ++ pair.closing :: (c :: rest).drop (n + 1) := by
      obtain ⟨m, hm, rfl⟩ := Option.map_eq_some_iff.1 h
      exact congrArg (c :: ·) (ih hm)
    cases place with
    | plain =>
      simp only [closing?] at h
      split at h
      · exact step h
      · split at h
        · exact step h
        · split at h
          · next hc =>
            split at h
            · obtain rfl := Option.some.inj h
              rw [hc]
              rfl
            · exact step h
          · exact step h
    | quoted q => exact step h
    | escaped q => exact step h

/-- A scan for a quote stops at the quote. -/
theorem closingQuote?_split {escape quote : α} {hidden : Bool} {n : Nat} {t : List α}
    (h : closingQuote? escape quote hidden t = some n) :
    t = t.take n ++ quote :: t.drop (n + 1) := by
  fun_induction closingQuote? escape quote hidden t generalizing n with
  | case1 => exact absurd h.symm (Option.some_ne_none n)
  | case2 c rest ih | case3 rest ih | case5 c rest _ _ ih =>
    obtain ⟨m, hm, rfl⟩ := Option.map_eq_some_iff.1 h
    exact congrArg (_ :: ·) (ih hm)
  | case4 =>
    obtain rfl := Option.some.inj h
    rfl

theorem closes_nil {depth : Nat} : Closes pair depth [] ↔ depth = 0 := by
  constructor
  · intro h
    have := h.even
    simp only [List.count_nil] at this
    omega
  · rintro rfl
    exact ⟨fun n => by simp, rfl⟩

theorem closes_cons_iff {depth : Nat} {c : α} {t : List α} : Closes pair depth (c :: t) ↔
    (∀ n, (c :: t.take n).count pair.closing ≤ depth + (c :: t.take n).count pair.opening) ∧
      (c :: t).count pair.closing = depth + (c :: t).count pair.opening := by
  constructor
  · intro h
    exact ⟨fun n => h.covered (n + 1), h.even⟩
  · rintro ⟨hcovered, heven⟩
    refine ⟨fun n => ?_, heven⟩
    cases n with
    | zero => simp
    | succ n => exact hcovered n

/-- An opening delimiter is one more to close. -/
theorem closes_opening (hne : pair.opening ≠ pair.closing) {depth : Nat} {t : List α} :
    Closes pair depth (pair.opening :: t) ↔ Closes pair (depth + 1) t := by
  simp only [closes_cons_iff, List.count_cons_self, List.count_cons_of_ne hne]
  constructor
  · rintro ⟨hcovered, heven⟩
    exact ⟨fun n => by have := hcovered n; omega, by omega⟩
  · intro h
    exact ⟨fun n => by have := h.covered n; omega, by have := h.even; omega⟩

/-- A closing delimiter needs one that is open. -/
theorem closes_closing (hne : pair.opening ≠ pair.closing) {depth : Nat} {t : List α} :
    Closes pair depth (pair.closing :: t) ↔ ∃ outer, depth = outer + 1 ∧ Closes pair outer t := by
  simp only [closes_cons_iff, List.count_cons_self, List.count_cons_of_ne hne.symm]
  constructor
  · rintro ⟨hcovered, heven⟩
    have hopen := hcovered 0
    simp only [List.take_zero, List.count_nil] at hopen
    exact ⟨depth - 1, by omega, fun n => by have := hcovered n; omega, by omega⟩
  · rintro ⟨outer, rfl, h⟩
    exact ⟨fun n => by have := h.covered n; omega, by have := h.even; omega⟩

theorem closes_other {depth : Nat} {c : α} {t : List α} (hopen : c ≠ pair.opening)
    (hclose : c ≠ pair.closing) : Closes pair depth (c :: t) ↔ Closes pair depth t := by
  simp only [closes_cons_iff, List.count_cons_of_ne hopen, List.count_cons_of_ne hclose]
  exact ⟨fun h => ⟨h.1, h.2⟩, fun h => ⟨h.covered, h.even⟩⟩

/-- Text without delimiters changes nothing. -/
theorem closes_append_of_not_mem {depth : Nat} {u t : List α} (hopen : pair.opening ∉ u)
    (hclose : pair.closing ∉ u) : Closes pair depth (u ++ t) ↔ Closes pair depth t := by
  induction u with
  | nil => rfl
  | cons c u ih =>
    rw [List.mem_cons, not_or] at hopen hclose
    rw [List.cons_append, closes_other (Ne.symm hopen.1) (Ne.symm hclose.1), ih hopen.2 hclose.2]

theorem balances_of_not_mem {t : List α} (hopen : pair.opening ∉ t) (hclose : pair.closing ∉ t) :
    Balances pair t := by
  rw [← List.append_nil t]
  exact (closes_append_of_not_mem hopen hclose).2 (closes_nil.2 rfl)

/-- What is left of such a text closes what is open there. -/
theorem Closes.exists_suffix {depth : Nat} {a b : List α} (h : Closes pair depth (a ++ b)) :
    ∃ left, Closes pair left b := by
  have hfront := h.covered a.length
  have heven := h.even
  rw [List.take_left] at hfront
  simp only [List.count_append] at heven
  refine ⟨depth + a.count pair.opening - a.count pair.closing, fun n => ?_, by omega⟩
  have hcovered := h.covered (a.length + n)
  rw [List.take_length_add_append, List.count_append, List.count_append] at hcovered
  omega

/-- A text that closes what is open and one that closes what it opens. -/
theorem Closes.append {depth : Nat} {a b : List α} (ha : Closes pair depth a)
    (hb : Balances pair b) : Closes pair depth (a ++ b) where
  covered n := by
    have hfirst := ha.covered n
    have hsecond := hb.covered (n - a.length)
    rw [List.take_append, List.count_append, List.count_append]
    omega
  even := by
    rw [List.count_append, List.count_append, ha.even, hb.even]
    omega

theorem closing?_plain_cons {marks : Marks α} {c : α} (hc : c ∉ marks.quotes) (nested : Nat) (t : List α) :
    closing? marks pair .plain nested (c :: t) =
      if c = pair.opening then (closing? marks pair .plain (nested + 1) t).map (· + 1)
      else if c = pair.closing then
        match nested with
        | 0 => some 0
        | outer + 1 => (closing? marks pair .plain outer t).map (· + 1)
      else (closing? marks pair .plain nested t).map (· + 1) := by
  cases nested <;> simp only [closing?, if_neg hc]

theorem closing?_literal_cons (marks : Marks α) (nested : Nat) (c : α) (t : List α) :
    closing? (marks.under .literal) pair .plain nested (c :: t) =
      if c = pair.opening then
        (closing? (marks.under .literal) pair .plain (nested + 1) t).map (· + 1)
      else if c = pair.closing then
        match nested with
        | 0 => some 0
        | outer + 1 => (closing? (marks.under .literal) pair .plain outer t).map (· + 1)
      else (closing? (marks.under .literal) pair .plain nested t).map (· + 1) :=
  closing?_plain_cons List.not_mem_nil nested t

/-- A scan without quotations stops at the delimiter behind a text that closes what is open. -/
theorem closing?_eq_some_iff (marks : Marks α) (hne : pair.opening ≠ pair.closing) {depth n : Nat}
    {t : List α} : closing? (marks.under .literal) pair .plain depth t = some n ↔
      ∃ body rest, t = body ++ pair.closing :: rest ∧ body.length = n ∧ Closes pair depth body := by
  induction t generalizing depth n with
  | nil => simp [closing?]
  | cons c t ih =>
    -- The first element belongs to the body, unless it is the delimiter looked for.
    have step {inner : Nat} (hfirst : ∀ body, Closes pair depth (c :: body) ↔ Closes pair inner body)
        (hinner : c = pair.closing → depth ≠ 0) :
        (closing? (marks.under .literal) pair .plain inner t).map (· + 1) = some n ↔
          ∃ body rest, c :: t = body ++ pair.closing :: rest ∧ body.length = n ∧
            Closes pair depth body := by
      simp only [Option.map_eq_some_iff, ih]
      constructor
      · rintro ⟨_, ⟨body, rest, rfl, rfl, hbody⟩, rfl⟩
        exact ⟨c :: body, rest, rfl, rfl, (hfirst body).2 hbody⟩
      · rintro ⟨body, rest, heq, hlen, hbody⟩
        cases body with
        | nil => exact absurd (closes_nil.1 hbody) (hinner (List.cons.inj heq).1)
        | cons d body =>
          obtain ⟨rfl, rfl⟩ := List.cons.inj heq
          exact ⟨body.length, ⟨body, rest, rfl, rfl, (hfirst body).1 hbody⟩, hlen⟩
    rw [closing?_literal_cons]
    split
    · next hc =>
      subst hc
      exact step (fun _ => closes_opening hne) fun h => absurd h hne
    · next hopen =>
      split
      · next hc =>
        subst hc
        cases depth with
        | zero =>
          constructor
          · intro h
            exact ⟨[], t, rfl, Option.some.inj h, closes_nil.2 rfl⟩
          · rintro ⟨body, rest, heq, rfl, hbody⟩
            cases body with
            | nil => rfl
            | cons d body =>
              obtain ⟨rfl, -⟩ := List.cons.inj heq
              obtain ⟨outer, hdepth, -⟩ := (closes_closing hne).1 hbody
              omega
        | succ outer =>
          refine step (fun body => ?_) fun _ => Nat.succ_ne_zero outer
          rw [closes_closing hne]
          constructor
          · rintro ⟨_, hdepth, hbody⟩
            rwa [Nat.succ.inj hdepth]
          · exact fun hbody => ⟨outer, rfl, hbody⟩
      · next hclose => exact step (fun _ => closes_other hopen hclose) fun h => absurd h hclose

/-- A scan without quotations finds nothing in a text that, however much of it has been read, has
closed no more delimiters than were open. -/
theorem closing?_eq_none_iff (marks : Marks α) (hne : pair.opening ≠ pair.closing) {depth : Nat}
    {t : List α} : closing? (marks.under .literal) pair .plain depth t = none ↔
      ∀ n, (t.take n).count pair.closing ≤ depth + (t.take n).count pair.opening := by
  induction t generalizing depth with
  | nil => simp [closing?]
  | cons c t ih =>
    have hempty : (c :: t).take 0 = [] := rfl
    rw [closing?_literal_cons, ← Nat.and_forall_add_one, hempty, List.count_nil, List.count_nil,
      and_iff_right (Nat.zero_le _)]
    simp only [List.take_succ_cons]
    split
    · next hc =>
      subst hc
      rw [Option.map_eq_none_iff, ih]
      simp only [List.count_cons_self, List.count_cons_of_ne hne]
      exact forall_congr' fun n => by omega
    · next hopen =>
      split
      · next hc =>
        subst hc
        simp only [List.count_cons_self, List.count_cons_of_ne hne.symm]
        cases depth with
        | zero =>
          refine iff_of_false (Option.some_ne_none 0) fun h => ?_
          have hfirst := h 0
          rw [List.take_zero, List.count_nil, List.count_nil] at hfirst
          omega
        | succ outer =>
          rw [Option.map_eq_none_iff, ih]
          exact forall_congr' fun n => by omega
      · next hclose =>
        rw [Option.map_eq_none_iff, ih]
        simp only [List.count_cons_of_ne hopen, List.count_cons_of_ne hclose]

end Counting

end StyleSnapshot
