import StyleSnapshot.Proofs.Delimiter

/-! A scan, step by step.

What a scan does at an element is told by the place where it stands and by how many further
delimiters are open (`Place.step`). So a scan of a text that is put together from parts goes on
behind a part from where the walk through that part ends (`closing?_append_of_walk`), unless it
has stopped there (`exists_closing?_of_walk`). In text without quotations that is told by what
the text closes (`walk_closes`). A scan that takes the end of a part for the inside of a quotation
does not stop behind it (`closing?_ne_of_astray`). -/
namespace StyleSnapshot

section Walk
variable {α : Type} [DecidableEq α] (marks : Marks α) (pair : Brackets α)

/-- The place behind the element `c`, and how many further delimiters are open there. There is
none if `c` is the delimiter that was looked for. -/
def Place.step (c : α) : Place α → Nat → Option (Place α × Nat)
  | .plain, nested =>
    if c ∈ marks.quotes then some (.quoted c, nested)
    else if c = pair.opening then some (.plain, nested + 1)
    else if c = pair.closing then
      match nested with
      | 0 => none
      | outer + 1 => some (.plain, outer)
    else some (.plain, nested)
  | place, nested => some (place.next marks c, nested)

/-- Where a scan stands behind a text, if it has not stopped in it. -/
def walk (s : Place α × Nat) : List α → Option (Place α × Nat)
  | [] => some s
  | c :: t => (s.1.step marks pair c s.2).bind fun next => walk next t

variable {marks pair}

theorem closing?_cons (place : Place α) (nested : Nat) (c : α) (t : List α) :
    closing? marks pair place nested (c :: t) =
      match place.step marks pair c nested with
      | none => some 0
      | some s => (closing? marks pair s.1 s.2 t).map (· + 1) := by
  cases place with
  | plain =>
    by_cases hquote : c ∈ marks.quotes
    · simp only [closing?, Place.step, hquote, if_true]
    · by_cases hopen : c = pair.opening
      · simp only [closing?, Place.step, if_neg hquote, if_pos hopen]
      · by_cases hclose : c = pair.closing
        · cases nested <;> simp only [closing?, Place.step, if_neg hquote, if_neg hopen, if_pos hclose]
        · simp only [closing?, Place.step, if_neg hquote, if_neg hopen, if_neg hclose]
  | quoted q => rfl
  | escaped q => rfl

theorem walk_append (s : Place α × Nat) (a b : List α) :
    walk marks pair s (a ++ b) = (walk marks pair s a).bind fun next => walk marks pair next b := by
  induction a generalizing s with
  | nil => rfl
  | cons c a ih =>
    show (s.1.step marks pair c s.2).bind (fun next => walk marks pair next (a ++ b)) =
      ((s.1.step marks pair c s.2).bind fun next => walk marks pair next a).bind fun next =>
        walk marks pair next b
    rw [Option.bind_assoc]
    exact Option.bind_congr fun next _ => ih next

/-- Behind a text that it walks through a scan goes on from where it stands. -/
theorem closing?_append_of_walk {s next : Place α × Nat} {a : List α}
    (h : walk marks pair s a = some next) (b : List α) : closing? marks pair s.1 s.2 (a ++ b) =
      (closing? marks pair next.1 next.2 b).map (a.length + ·) := by
  induction a generalizing s with
  | nil =>
    obtain rfl := Option.some.inj h
    simp
  | cons c a ih =>
    obtain ⟨middle, hstep, hwalk⟩ := Option.bind_eq_some_iff.1 h
    rw [List.cons_append, closing?_cons, hstep]
    show (closing? marks pair middle.1 middle.2 (a ++ b)).map (· + 1) = _
    rw [ih hwalk, Option.map_map]
    refine Option.map_congr fun n _ => ?_
    simp only [Function.comp, List.length_cons]
    omega

/-- A scan that does not walk through a text stops in it. -/
theorem exists_closing?_of_walk {s : Place α × Nat} {a : List α} (h : walk marks pair s a = none)
    (b : List α) : ∃ n < a.length, closing? marks pair s.1 s.2 (a ++ b) = some n := by
  induction a generalizing s with
  | nil => exact absurd h.symm (Option.some_ne_none s).symm
  | cons c a ih =>
    rw [List.cons_append, closing?_cons]
    cases hstep : s.1.step marks pair c s.2 with
    | none => exact ⟨0, Nat.succ_pos _, rfl⟩
    | some next =>
      have hrest : walk marks pair next a = none := by
        rwa [walk, hstep] at h
      obtain ⟨n, hn, hclose⟩ := ih hrest
      refine ⟨n + 1, Nat.succ_lt_succ hn, ?_⟩
      show (closing? marks pair next.1 next.2 (a ++ b)).map (· + 1) = some (n + 1)
      rw [hclose, Option.map_some]

/-! ### Elements that are no marks -/

variable (marks pair) in
/-- The element means nothing to a scan. -/
structure Ordinary (c : α) : Prop where
  escape : c ≠ marks.escape
  quotes : c ∉ marks.quotes
  opening : c ≠ pair.opening
  closing : c ≠ pair.closing

variable (marks) in
/-- A place in plain text, or in a quotation that the marks can open. -/
def Place.Within : Place α → Prop
  | .plain => True
  | .quoted q | .escaped q => q ∈ marks.quotes

/-- The place behind an element that means nothing. -/
def Place.uncovered : Place α → Place α
  | .escaped q => .quoted q
  | place => place

omit [DecidableEq α] in
theorem Place.Within.uncovered {place : Place α} (h : place.Within marks) :
    place.uncovered.Within marks := by
  cases place <;> exact h

theorem Place.Within.step {place : Place α} (h : place.Within marks) {c : α} {nested : Nat}
    {s : Place α × Nat} (hs : place.step marks pair c nested = some s) : s.1.Within marks := by
  cases place with
  | plain =>
    simp only [Place.step] at hs
    split at hs
    · next hquote =>
      obtain rfl := Option.some.inj hs
      exact hquote
    · split at hs
      · obtain rfl := Option.some.inj hs
        trivial
      · split at hs
        · split at hs
          · exact absurd hs.symm (Option.some_ne_none s)
          · obtain rfl := Option.some.inj hs
            trivial
        · obtain rfl := Option.some.inj hs
          trivial
  | quoted q =>
    obtain rfl := Option.some.inj hs
    simp only [Place.next]
    split
    · exact h
    · split
      · trivial
      · exact h
  | escaped q =>
    obtain rfl := Option.some.inj hs
    exact h

theorem Ordinary.step {c : α} (hc : Ordinary marks pair c) {place : Place α}
    (h : place.Within marks) (nested : Nat) :
    place.step marks pair c nested = some (place.uncovered, nested) := by
  cases place with
  | plain => simp only [Place.step, if_neg hc.quotes, if_neg hc.opening, if_neg hc.closing, Place.uncovered]
  | quoted q =>
    have hq : c ≠ q := fun hcq => hc.quotes (hcq ▸ h)
    simp only [Place.step, Place.next, if_neg hc.escape, if_neg hq, Place.uncovered]
  | escaped q => rfl

theorem walk_of_ordinary {u : List α} (h : ∀ c ∈ u, Ordinary marks pair c) (hne : u ≠ [])
    {place : Place α} (hplace : place.Within marks) (nested : Nat) :
    walk marks pair (place, nested) u = some (place.uncovered, nested) := by
  induction u generalizing place with
  | nil => exact absurd rfl hne
  | cons c u ih =>
    rw [walk, (h c List.mem_cons_self).step hplace, Option.bind_some]
    by_cases hu : u = []
    · rw [hu, walk]
    · rw [ih (fun d hd => h d (List.mem_cons_of_mem c hd)) hu hplace.uncovered]
      cases place <;> rfl

/-! ### Text without quotations -/

theorem walk_plain_cons {c : α} (hc : c ∉ marks.quotes) (nested : Nat) (t : List α) :
    walk marks pair (.plain, nested) (c :: t) =
      if c = pair.opening then walk marks pair (.plain, nested + 1) t
      else if c = pair.closing then
        match nested with
        | 0 => none
        | outer + 1 => walk marks pair (.plain, outer) t
      else walk marks pair (.plain, nested) t := by
  simp only [walk, Place.step, if_neg hc]
  split
  · rfl
  · split
    · cases nested <;> rfl
    · rfl

/-- Text that closes some delimiters leaves open what else was open in front of it; a scan stops
in it if no more was open. -/
theorem walk_closes (hne : pair.opening ≠ pair.closing) {depth : Nat} {t : List α}
    (hplain : ∀ c ∈ t, c ∉ marks.quotes) (h : Closes pair depth t) (nested : Nat) :
    walk marks pair (.plain, nested) t =
      if depth ≤ nested then some (.plain, nested - depth) else none := by
  induction t generalizing depth nested with
  | nil =>
    obtain rfl := closes_nil.1 h
    rw [if_pos (Nat.zero_le nested)]
    rfl
  | cons c t ih =>
    have hrest : ∀ d ∈ t, d ∉ marks.quotes := fun d hd => hplain d (List.mem_cons_of_mem c hd)
    rw [walk_plain_cons (hplain c List.mem_cons_self)]
    split
    · next hopen =>
      subst hopen
      rw [ih hrest ((closes_opening hne).1 h), Nat.add_sub_add_right]
      simp only [Nat.add_le_add_iff_right]
    · next hopen =>
      split
      · next hclose =>
        subst hclose
        obtain ⟨outer, rfl, houter⟩ := (closes_closing hne).1 h
        cases nested with
        | zero => rw [if_neg (Nat.not_succ_le_zero outer)]
        | succ nested =>
          rw [Nat.add_sub_add_right]
          simp only [ih hrest houter, Nat.add_le_add_iff_right]
      · next hclose => exact ih hrest ((closes_other hopen hclose).1 h) nested

/-- Text that closes what it opens is walked through. -/
theorem walk_balances (hne : pair.opening ≠ pair.closing) {t : List α}
    (hplain : ∀ c ∈ t, c ∉ marks.quotes) (h : Balances pair t) (nested : Nat) :
    walk marks pair (.plain, nested) t = some (.plain, nested) := by
  rw [walk_closes hne hplain h, if_pos (Nat.zero_le nested), Nat.sub_zero]

/-! ### Scans that have lost their way -/

variable (marks) in
/-- A scan that has stopped, or that takes what follows for the inside of a quotation. -/
def Astray (found : Option (Place α × Nat)) : Prop :=
  ∀ s ∈ found, ∃ q ∈ marks.quotes, s.1 = .quoted q

/-- A scan that has lost its way does not stop at the element behind. -/
theorem closing?_ne_of_astray {s : Place α × Nat} {a : List α}
    (h : Astray marks (walk marks pair s a)) (c : α) (b : List α) :
    closing? marks pair s.1 s.2 (a ++ c :: b) ≠ some a.length := by
  cases hwalk : walk marks pair s a with
  | none =>
    obtain ⟨n, hn, hclose⟩ := exists_closing?_of_walk hwalk (c :: b)
    rw [hclose]
    exact fun heq => absurd (Option.some.inj heq) (Nat.ne_of_lt hn)
  | some next =>
    obtain ⟨q, -, hplace⟩ := h next hwalk
    obtain ⟨place, nested⟩ := next
    obtain rfl : place = .quoted q := hplace
    rw [closing?_append_of_walk hwalk, closing?_cons]
    intro heq
    obtain ⟨n, hn, hlen⟩ := Option.map_eq_some_iff.1 heq
    obtain ⟨m, -, rfl⟩ := Option.map_eq_some_iff.1 hn
    omega

end Walk

end StyleSnapshot
