import StyleSnapshot.Proofs.Delimiter

/-! Quotations, and texts in which they are overwritten.

What a quotation may hold is a grammar (`Enclosed`): an escape goes with the element behind it,
and the quote itself is none of the others. A scan for the closing quote ends behind such a text
and nowhere else (`closingQuote?_eq_some_iff`). So a scan that passes over quotations sees the
text outside of them only: it ends where a scan that knows none ends in a text in which every
quotation is overwritten by elements that are no delimiters (`Overwritten.closing?_eq`). -/
namespace StyleSnapshot

section Elements
variable {α : Type}

/-! ### Quotations -/

/-- What stands in a quotation. -/
inductive Enclosed (escape quote : α) : List α → Prop
  | nil : Enclosed escape quote []
  /-- What an escape hides may be anything. -/
  | escaped {c : α} {t : List α} : Enclosed escape quote t → Enclosed escape quote (escape :: c :: t)
  | plain {c : α} {t : List α} : c ≠ escape → c ≠ quote → Enclosed escape quote t →
      Enclosed escape quote (c :: t)

variable [DecidableEq α] {escape quote : α}

/-- What stands in a quotation does not end it. -/
theorem Enclosed.closingQuote?_append {inside : List α} (h : Enclosed escape quote inside) (t : List α) :
    closingQuote? escape quote false (inside ++ t) =
      (closingQuote? escape quote false t).map (inside.length + ·) := by
  induction h with
  | nil => simp
  | @escaped c inside _ ih =>
    rw [List.cons_append, List.cons_append, closingQuote?, if_pos rfl, closingQuote?, ih,
      map_add_succ _ rfl, map_add_succ _ rfl, List.length_cons, List.length_cons]
  | plain hescape hquote _ ih =>
    rw [List.cons_append, closingQuote?, if_neg hescape, if_neg hquote, ih, map_add_succ _ rfl,
      List.length_cons]

/-- What stands in front of a closing quote stands in the quotation, but for what an escape in
front of it hides. -/
theorem exists_enclosed {hidden : Bool} {t : List α} {n : Nat}
    (h : closingQuote? escape quote hidden t = some n) :
    ∃ front inside rest, t = front ++ (inside ++ quote :: rest) ∧ front.length = hidden.toNat ∧
      front.length + inside.length = n ∧ Enclosed escape quote inside := by
  fun_induction closingQuote? escape quote hidden t generalizing n with
  | case1 => exact absurd h.symm (Option.some_ne_none n)
  | case2 c t ih =>
    obtain ⟨m, hm, rfl⟩ := Option.map_eq_some_iff.1 h
    obtain ⟨front, inside, rest, rfl, hfront, rfl, hinside⟩ := ih hm
    obtain rfl := List.length_eq_zero_iff.1 hfront
    exact ⟨[c], inside, rest, rfl, rfl, by simp; omega, hinside⟩
  | case3 t ih =>
    obtain ⟨m, hm, rfl⟩ := Option.map_eq_some_iff.1 h
    obtain ⟨front, inside, rest, rfl, hfront, rfl, hinside⟩ := ih hm
    obtain ⟨d, rfl⟩ := List.length_eq_one_iff.1 hfront
    exact ⟨[], escape :: d :: inside, rest, rfl, rfl, by simp; omega, hinside.escaped⟩
  | case4 t =>
    obtain rfl := Option.some.inj h
    exact ⟨[], [], t, rfl, rfl, rfl, .nil⟩
  | case5 c t hescape hquote ih =>
    obtain ⟨m, hm, rfl⟩ := Option.map_eq_some_iff.1 h
    obtain ⟨front, inside, rest, rfl, hfront, rfl, hinside⟩ := ih hm
    obtain rfl := List.length_eq_zero_iff.1 hfront
    exact ⟨[], c :: inside, rest, rfl, rfl, by simp, hinside.plain hescape hquote⟩

/-- A quotation is closed by the quote behind what may stand in it. -/
theorem closingQuote?_eq_some_iff (hne : quote ≠ escape) {t : List α} {n : Nat} :
    closingQuote? escape quote false t = some n ↔
      ∃ inside rest, t = inside ++ quote :: rest ∧ inside.length = n ∧ Enclosed escape quote inside := by
  constructor
  · intro h
    obtain ⟨front, inside, rest, rfl, hfront, rfl, hinside⟩ := exists_enclosed h
    obtain rfl := List.length_eq_zero_iff.1 hfront
    exact ⟨inside, rest, rfl, (Nat.zero_add _).symm, hinside⟩
  · rintro ⟨inside, rest, rfl, rfl, hinside⟩
    rw [hinside.closingQuote?_append, closingQuote?, if_neg hne, if_pos rfl]
    rfl

/-- A scan inside of a quotation goes on behind the quote that ends it. -/
theorem closing?_quoted (marks : Marks α) (pair : Brackets α) (hidden : Bool) (nested : Nat) (t : List α) :
    closing? marks pair (if hidden then .escaped quote else .quoted quote) nested t =
      (closingQuote? marks.escape quote hidden t).bind fun n =>
        (closing? marks pair .plain nested (t.drop (n + 1))).map (n + 1 + ·) := by
  induction t generalizing hidden with
  | nil => cases hidden <;> rfl
  | cons c t ih =>
    have hstep (found : Option Nat) :
        (found.bind fun n => (closing? marks pair .plain nested (t.drop (n + 1))).map (n + 1 + ·)).map
            (· + 1) =
          (found.map (· + 1)).bind fun n =>
            (closing? marks pair .plain nested ((c :: t).drop (n + 1))).map (n + 1 + ·) := by
      cases found with
      | none => rfl
      | some n =>
        rw [Option.bind_some, map_add_succ _ rfl]
        rfl
    cases hidden with
    | true => exact (congrArg (Option.map (· + 1)) (ih false)).trans (hstep _)
    | false =>
      show (closing? marks pair ((Place.quoted quote).next marks c) nested t).map (· + 1) = _
      rw [closingQuote?, Place.next]
      split
      · exact (congrArg (Option.map (· + 1)) (ih true)).trans (hstep _)
      · split
        · rw [Option.bind_some, Nat.zero_add]
          exact Option.map_congr fun n _ => Nat.add_comm n 1
        · exact (congrArg (Option.map (· + 1)) (ih false)).trans (hstep _)

end Elements

/-! ### Overwritten quotations -/

section Overwriting
variable {α : Type} (marks : Marks α) (pair : Brackets α)

/-- Elements that are no delimiters. -/
def Fills (u : List α) : Prop := ∀ c ∈ u, c ≠ pair.opening ∧ c ≠ pair.closing

/-- The second text is the first one with every quotation overwritten, from its opening quote to
its closing one, or to the end of the text if there is none. -/
inductive Overwritten : List α → List α → Prop
  | nil : Overwritten [] []
  | kept {c : α} {t masked : List α} : c ∉ marks.quotes → Overwritten t masked →
      Overwritten (c :: t) (c :: masked)
  | quotation {quote : α} {inside t u masked : List α} : quote ∈ marks.quotes →
      Enclosed marks.escape quote inside → u.length = inside.length + 2 → Fills pair u →
      Overwritten t masked → Overwritten (quote :: (inside ++ quote :: t)) (u ++ masked)
  | unclosed {quote : α} {t u : List α} : quote ∈ marks.quotes →
      (∀ inside rest, Enclosed marks.escape quote inside → t ≠ inside ++ quote :: rest) →
      u.length = t.length + 1 → Fills pair u → Overwritten (quote :: t) u

variable {marks pair}

theorem Overwritten.length_eq {t masked : List α} (h : Overwritten marks pair t masked) :
    masked.length = t.length := by
  induction h with
  | nil => rfl
  | kept _ _ ih => rw [List.length_cons, List.length_cons, ih]
  | quotation _ _ hlength _ _ ih =>
    simp only [List.length_append, List.length_cons, hlength, ih]
    omega
  | unclosed _ _ hlength _ => exact hlength

variable [DecidableEq α]

/-- Every text can be overwritten. -/
theorem exists_overwritten (hescape : marks.escape ∉ marks.quotes) {filler : α}
    (hfill : filler ≠ pair.opening ∧ filler ≠ pair.closing) (t : List α) :
    ∃ masked, Overwritten marks pair t masked := by
  have hfills (n : Nat) : Fills pair (List.replicate n filler) := fun c hc => by
    rw [List.eq_of_mem_replicate hc]
    exact hfill
  induction hlength : t.length using Nat.strongRecOn generalizing t with
  | ind m ih =>
    subst hlength
    cases t with
    | nil => exact ⟨[], .nil⟩
    | cons c t =>
      by_cases hc : c ∈ marks.quotes
      · have hne : c ≠ marks.escape := fun h => hescape (h ▸ hc)
        by_cases hclosed : ∃ inside rest, t = inside ++ c :: rest ∧ Enclosed marks.escape c inside
        · obtain ⟨inside, rest, rfl, hinside⟩ := hclosed
          obtain ⟨masked, hmasked⟩ := ih rest.length (by simp; omega) rest rfl
          exact ⟨_, .quotation hc hinside List.length_replicate (hfills _) hmasked⟩
        · refine ⟨_, .unclosed hc (fun inside rest hinside heq => hclosed ?_) List.length_replicate
            (hfills _)⟩
          exact ⟨inside, rest, heq, hinside⟩
      · obtain ⟨masked, hmasked⟩ := ih t.length (by simp) t rfl
        exact ⟨_, .kept hc hmasked⟩

/-- Elements that are no delimiters are passed over by a scan without quotations. -/
theorem closing?_literal_fills (marks : Marks α) {u : List α} (h : Fills pair u) (nested : Nat)
    (t : List α) :
    closing? (marks.under .literal) pair .plain nested (u ++ t) =
      (closing? (marks.under .literal) pair .plain nested t).map (u.length + ·) := by
  induction u with
  | nil => simp
  | cons c u ih =>
    obtain ⟨hopening, hclosing⟩ := h c List.mem_cons_self
    rw [List.cons_append, closing?_literal_cons, if_neg hopening, if_neg hclosing,
      ih fun d hd => h d (List.mem_cons_of_mem c hd), map_add_succ _ rfl, List.length_cons]

theorem closing?_quote {quote : α} (h : quote ∈ marks.quotes) (nested : Nat) (t : List α) :
    closing? marks pair .plain nested (quote :: t) =
      (closingQuote? marks.escape quote false t).bind fun n =>
        (closing? marks pair .plain nested (t.drop (n + 1))).map (n + 2 + ·) := by
  have hquoted : closing? marks pair (.quoted quote) nested t = _ :=
    closing?_quoted marks pair false nested t
  have hopen : closing? marks pair .plain nested (quote :: t) =
      (closing? marks pair (.quoted quote) nested t).map (· + 1) := by
    cases nested <;> simp only [closing?, if_pos h]
  rw [hopen, hquoted, Option.map_bind]
  exact Option.bind_congr fun n _ => map_add_succ _ rfl

/-- **Quotations are passed over**: a scan ends where a scan that knows no quotations ends in a
text in which they are overwritten. -/
theorem Overwritten.closing?_eq (hescape : marks.escape ∉ marks.quotes) {t masked : List α}
    (h : Overwritten marks pair t masked) (nested : Nat) :
    closing? marks pair .plain nested t =
      closing? (marks.under .literal) pair .plain nested masked := by
  induction h generalizing nested with
  | nil => rfl
  | @kept c t masked hc _ ih =>
    rw [closing?_plain_cons hc, closing?_literal_cons]
    cases nested <;> simp only [ih]
  | @quotation quote inside t u masked hquote hinside hlength hfills _ ih =>
    have hne : quote ≠ marks.escape := fun h => hescape (h ▸ hquote)
    have hclose : closingQuote? marks.escape quote false (inside ++ quote :: t) = some inside.length :=
      (closingQuote?_eq_some_iff hne).2 ⟨inside, t, rfl, rfl, hinside⟩
    rw [closing?_quote hquote, hclose, Option.bind_some, List.drop_length_add_append,
      closing?_literal_fills marks hfills, ← ih, hlength]
    rfl
  | @unclosed quote t u hquote hopen _ hfills =>
    have hne : quote ≠ marks.escape := fun h => hescape (h ▸ hquote)
    have hnone : closingQuote? marks.escape quote false t = none := by
      refine Option.eq_none_iff_forall_ne_some.2 fun n hsome => ?_
      obtain ⟨inside, rest, heq, -, hinside⟩ := (closingQuote?_eq_some_iff hne).1 hsome
      exact hopen inside rest hinside heq
    have hliteral := closing?_literal_fills marks hfills nested []
    rw [List.append_nil] at hliteral
    rw [closing?_quote hquote, hnone, hliteral]
    rfl

end Overwriting

end StyleSnapshot
