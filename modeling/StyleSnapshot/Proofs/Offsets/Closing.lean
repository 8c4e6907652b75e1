import Mathlib.Order.Bounds.Defs
import StyleSnapshot.Proofs.Offsets.Loop
import StyleSnapshot.Proofs.Quotation

/-! Closing delimiters by index and depth.

The delimiter that closes the one at an index is found by a loop that keeps an index and a depth.
The depth never goes below zero, and the loop finds what a scan of the text behind the index finds
(`findClosing_eq`). That is told without a scan: where quotations count for nothing it is the
first index up to which as many delimiters are closed as are opened
(`closingAt?_literal_eq_some_iff`), and where they are passed over it is that of a text in which
they are overwritten (`closingAt?_overwritten`). -/
namespace StyleSnapshot.Offsets

/-! ### Counting from an index -/

section Counting
variable {α : Type} [DecidableEq α] {marks : Marks α} {pair : Brackets α}

/-- From `start` up to `stop`, both included, a text opens as many delimiters as it closes. -/
structure EvenUpTo (pair : Brackets α) (t : List α) (start stop : Nat) : Prop where
  behind : start < stop
  within : stop < t.length
  even : ((t.take (stop + 1)).drop start).count pair.opening =
    ((t.take (stop + 1)).drop start).count pair.closing

theorem closingAt?_eq_ite (hne : pair.opening ≠ pair.closing) (t : List α) (start : Nat) :
    closingAt? marks pair t start =
      if t[start]? = some pair.opening then
        (closing? marks pair .plain 0 (t.drop (start + 1))).map (start + 1 + ·)
      else none := by
  cases hc : t[start]? with
  | none => rw [closingAt?, List.drop_of_length_le (List.getElem?_eq_none_iff.1 hc)]; rfl
  | some c =>
    rw [closingAt?, List.drop_eq_getElem?_toList_append, hc]
    simp [hne]

theorem evenUpTo_iff (hne : pair.opening ≠ pair.closing) {t : List α} {start : Nat}
    (hopen : t[start]? = some pair.opening) (n : Nat) :
    EvenUpTo pair t start (start + 1 + n) ↔ n < (t.drop (start + 1)).length ∧
      ((t.drop (start + 1)).take (n + 1)).count pair.closing =
        ((t.drop (start + 1)).take (n + 1)).count pair.opening + 1 := by
  have hstretch : (t.take (start + 1 + n + 1)).drop start =
      pair.opening :: (t.drop (start + 1)).take (n + 1) := by
    rw [List.drop_take, List.drop_eq_getElem?_toList_append, hopen,
      show start + 1 + n + 1 - start = n + 1 + 1 by omega]
    rfl
  have hcount : EvenUpTo pair t start (start + 1 + n) ↔ start + 1 + n < t.length ∧ _ :=
    ⟨fun h => ⟨h.within, h.even⟩, fun h => ⟨by omega, h.1, h.2⟩⟩
  rw [hcount, hstretch, List.count_cons_self, List.count_cons_of_ne hne, List.length_drop]
  omega

/-- The delimiter found is the first one up to which as many are closed as are opened. -/
theorem isLeast_of_closing? (hne : pair.opening ≠ pair.closing) {t : List α} {start n : Nat}
    (hopen : t[start]? = some pair.opening)
    (h : closing? (marks.under .literal) pair .plain 0 (t.drop (start + 1)) = some n) :
    IsLeast {stop | EvenUpTo pair t start stop} (start + 1 + n) := by
  have hlt := closing?_lt_length h
  obtain ⟨body, rest, hsplit, rfl, hbody⟩ := (closing?_eq_some_iff marks hne).1 h
  constructor
  · refine (evenUpTo_iff hne hopen _).2 ⟨hlt, ?_⟩
    have heven := hbody.even
    rw [hsplit, List.take_length_add_append, List.take_succ_cons, List.take_zero, List.count_append,
      List.count_append, List.count_singleton_self, List.count_singleton, if_neg (by simpa using hne.symm)]
    omega
  · intro stop hstop
    obtain ⟨k, rfl⟩ := Nat.exists_eq_add_of_lt (EvenUpTo.behind hstop)
    rw [show start + k + 1 = start + 1 + k by omega] at hstop ⊢
    obtain ⟨-, hcount⟩ := (evenUpTo_iff hne hopen k).1 hstop
    -- Within the body never more is closed than opened.
    refine Nat.add_le_add_left (Nat.le_of_not_lt fun hk => ?_) _
    have hcovered := hbody.covered (k + 1)
    rw [hsplit, List.take_append_of_le_length (show k + 1 ≤ body.length from hk)] at hcount
    omega

/-- Where no delimiter is found, nowhere are as many closed as are opened. -/
theorem not_evenUpTo_of_closing? (hne : pair.opening ≠ pair.closing) {t : List α} {start : Nat}
    (hopen : t[start]? = some pair.opening)
    (h : closing? (marks.under .literal) pair .plain 0 (t.drop (start + 1)) = none) (stop : Nat) :
    ¬ EvenUpTo pair t start stop := by
  intro hstop
  obtain ⟨k, rfl⟩ := Nat.exists_eq_add_of_lt hstop.behind
  rw [show start + k + 1 = start + 1 + k by omega] at hstop
  obtain ⟨-, hcount⟩ := (evenUpTo_iff hne hopen k).1 hstop
  have hcovered := (closing?_eq_none_iff marks hne).1 h (k + 1)
  omega

theorem closingAt?_literal_eq_some_iff (hne : pair.opening ≠ pair.closing) {t : List α} {start stop : Nat} :
    closingAt? (marks.under .literal) pair t start = some stop ↔
      t[start]? = some pair.opening ∧ IsLeast {stop | EvenUpTo pair t start stop} stop := by
  rw [closingAt?_eq_ite hne]
  by_cases hopen : t[start]? = some pair.opening
  · rw [if_pos hopen, and_iff_right hopen]
    cases hclose : closing? (marks.under .literal) pair .plain 0 (t.drop (start + 1)) with
    | none =>
      exact iff_of_false (Option.some_ne_none stop).symm fun hleast =>
        not_evenUpTo_of_closing? hne hopen hclose stop hleast.1
    | some n =>
      have hleast := isLeast_of_closing? hne hopen hclose
      rw [Option.map_some, Option.some_inj]
      exact ⟨fun h => h ▸ hleast, fun h => Nat.le_antisymm (hleast.2 h.1) (h.2 hleast.1)⟩
  · rw [if_neg hopen]
    exact iff_of_false (Option.some_ne_none stop).symm fun h => hopen h.1

theorem closingAt?_literal_eq_none_iff (hne : pair.opening ≠ pair.closing) {t : List α} {start : Nat} :
    closingAt? (marks.under .literal) pair t start = none ↔
      t[start]? ≠ some pair.opening ∨ ∀ stop, ¬ EvenUpTo pair t start stop := by
  rw [closingAt?_eq_ite hne]
  by_cases hopen : t[start]? = some pair.opening
  · rw [if_pos hopen, Option.map_eq_none_iff]
    constructor
    · exact fun hclose => .inr (not_evenUpTo_of_closing? hne hopen hclose)
    · rintro (h | h)
      · exact absurd hopen h
      · refine Option.eq_none_iff_forall_ne_some.2 fun n hclose => ?_
        exact h _ (isLeast_of_closing? hne hopen hclose).1
  · rw [if_neg hopen]
    exact iff_of_true rfl (.inl hopen)

/-- Quotations are passed over from an index on. -/
theorem closingAt?_overwritten (hescape : marks.escape ∉ marks.quotes)
    (hne : pair.opening ≠ pair.closing) (hopening : pair.opening ∉ marks.quotes) {t masked : List α}
    {start : Nat} (h : Overwritten marks pair (t.drop start) masked) :
    closingAt? marks pair t start =
      closingAt? (marks.under .literal) pair (t.take start ++ masked) start := by
  have hdrop : (t.take start ++ masked).drop start = masked := by
    have hlength := h.length_eq
    rw [List.length_drop] at hlength
    rcases Nat.le_total start t.length with hle | hle
    · exact List.drop_left' (List.length_take_of_le hle)
    · obtain rfl := List.length_eq_zero_iff.1 (hlength.trans (Nat.sub_eq_zero_of_le hle))
      rw [List.append_nil, List.drop_of_length_le (Nat.le_trans (List.length_take_le' _ _) hle)]
  rw [closingAt?, closingAt?, hdrop]
  generalize t.drop start = rest at h
  cases h with
  | nil => rfl
  | @kept c rest masked hc hrest =>
    simp only [if_neg hne, hrest.closing?_eq hescape]
  | @quotation quote inside rest u masked hquote _ hlength hfills _ =>
    obtain ⟨c, u, rfl⟩ := List.exists_cons_of_length_pos (Nat.lt_of_lt_of_eq (Nat.succ_pos _) hlength.symm)
    have hquoted : quote ≠ pair.opening := fun h => hopening (h ▸ hquote)
    simp only [List.cons_append, if_pos hquoted, if_pos (hfills c List.mem_cons_self).1]
  | @unclosed quote rest u hquote _ hlength hfills =>
    obtain ⟨c, u, rfl⟩ := List.exists_cons_of_length_pos (Nat.lt_of_lt_of_eq (Nat.succ_pos _) hlength.symm)
    have hquoted : quote ≠ pair.opening := fun h => hopening (h ▸ hquote)
    simp only [if_pos hquoted, if_pos (hfills c List.mem_cons_self).1]

end Counting

/-! ### By index and depth -/

/-- Looks at the byte at an index for the quote that ends a quotation. -/
def quoteRound (bytes : List UInt8) (quote : UInt8) (index : Nat) :
    Except Fault (Outcome Nat (Option Nat)) :=
  match bytes[index]? with
  | none => .ok (.done none)
  | some b =>
    if b = Marks.bytes.escape then .ok (.again (index + 2))
    else if b = quote then .ok (.done (some index))
    else .ok (.again (index + 1))

/-- The index of the quote that ends the quotation opened at an index. -/
def findQuote (bytes : List UInt8) (start : Nat) : Except Fault (Option Nat) :=
  match bytes[start]? with
  | none => .ok none
  | some quote => loop (quoteRound bytes quote) (bytes.length - ·) (start + 1)

/-- Where a search stands, and how many delimiters are open there. -/
structure Depth where
  index : Nat
  depth : Nat
  deriving DecidableEq, Repr

/-- Looks at the byte at an index for the delimiter that closes the first one. A quotation is
passed over at once. -/
def depthRound (quoting : Quoting) (pair : Brackets UInt8) (bytes : List UInt8) (s : Depth) :
    Except Fault (Outcome Depth (Option Nat)) :=
  match bytes[s.index]? with
  | none => .ok (.done none)
  | some b =>
    if b ∈ (Marks.bytes.under quoting).quotes then do
      match ← findQuote bytes s.index with
      | none => return .done none
      | some close => return .again ⟨close + 1, s.depth⟩
    else if b = pair.opening then .ok (.again ⟨s.index + 1, s.depth + 1⟩)
    else if b = pair.closing then do
      let outer ← difference s.depth 1
      if outer = 0 then return .done (some s.index) else return .again ⟨s.index + 1, outer⟩
    else .ok (.again ⟨s.index + 1, s.depth⟩)

/-- The index of the delimiter that closes the one at an index. -/
def findClosing (quoting : Quoting) (pair : Brackets UInt8) (bytes : List UInt8) (start : Nat) :
    Except Fault (Option Nat) :=
  if bytes[start]? ≠ some pair.opening then .ok none
  else if pair.opening = pair.closing then findQuote bytes start
  else loop (depthRound quoting pair bytes) (bytes.length - ·.index) ⟨start, 0⟩

theorem drop_of_getElem? {bytes : List UInt8} {index : Nat} {b : UInt8} (h : bytes[index]? = some b) :
    bytes.drop index = b :: bytes.drop (index + 1) := by
  rw [List.drop_eq_getElem?_toList_append, h]
  rfl

theorem lt_of_getElem? {bytes : List UInt8} {index : Nat} {b : UInt8} (h : bytes[index]? = some b) :
    index < bytes.length :=
  (List.getElem?_eq_some_iff.1 h).1

/-- The next index is behind one that is within the text. -/
def Onward (bytes : List UInt8) (index next : Nat) : Prop := index < bytes.length ∧ index < next

theorem Onward.left_lt {bytes : List UInt8} {index next : Nat} (h : Onward bytes index next) :
    bytes.length - next < bytes.length - index :=
  Nat.sub_lt_sub_left h.1 h.2

theorem map_succ_add (found : Option Nat) (index : Nat) :
    (found.map (· + 1)).map (index + ·) = found.map (index + 1 + ·) := by
  rw [Option.map_map]
  exact Option.map_congr fun n _ => by simp only [Function.comp]; omega

theorem closingQuote?_hidden (escape quote : UInt8) (t : List UInt8) :
    closingQuote? escape quote true t = (closingQuote? escape quote false (t.drop 1)).map (· + 1) := by
  cases t <;> rfl

/-- A round that goes on keeps what a scan behind the index finds. -/
theorem quoteRound_cases {bytes : List UInt8} {quote : UInt8} {index : Nat} {found : Option Nat}
    (h : found = (closingQuote? Marks.bytes.escape quote false (bytes.drop index)).map (index + ·)) :
    quoteRound bytes quote index = .ok (.done found) ∨
      ∃ next, quoteRound bytes quote index = .ok (.again next) ∧ Onward bytes index next ∧
        found = (closingQuote? Marks.bytes.escape quote false (bytes.drop next)).map (next + ·) := by
  subst h
  rw [quoteRound]
  cases hb : bytes[index]? with
  | none =>
    rw [List.drop_of_length_le (List.getElem?_eq_none_iff.1 hb)]
    exact .inl rfl
  | some b =>
    have hlt := lt_of_getElem? hb
    rw [drop_of_getElem? hb, closingQuote?]
    by_cases hescape : b = Marks.bytes.escape
    · refine .inr ⟨index + 2, if_pos hescape, ⟨hlt, by omega⟩, ?_⟩
      rw [if_pos hescape, closingQuote?_hidden, List.drop_drop, map_succ_add, map_succ_add]
    · simp only [if_neg hescape]
      by_cases hquote : b = quote
      · simp only [if_pos hquote]
        exact .inl rfl
      · refine .inr ⟨index + 1, if_neg hquote, ⟨hlt, by omega⟩, ?_⟩
        rw [if_neg hquote, map_succ_add]

/-- The search for a quote finds what a scan behind the index finds. -/
theorem runs_quoteRound (bytes : List UInt8) (quote : UInt8) (index : Nat) :
    Runs (quoteRound bytes quote) (Onward bytes) index
      ((closingQuote? Marks.bytes.escape quote false (bytes.drop index)).map (index + ·)) :=
  runs_of_invariant (bytes.length - ·) (fun _ _ h => h.left_lt) (fun _ _ => quoteRound_cases) rfl

theorem findQuote_eq (bytes : List UInt8) (start : Nat) :
    findQuote bytes start = .ok (closingQuoteAt? Marks.bytes.escape bytes start) := by
  rw [findQuote, closingQuoteAt?]
  cases hb : bytes[start]? with
  | none => rw [List.drop_of_length_le (List.getElem?_eq_none_iff.1 hb)]
  | some quote =>
    rw [drop_of_getElem? hb]
    exact (runs_quoteRound bytes quote (start + 1)).loop_eq fun _ _ h => h.left_lt

section Depth
variable {quoting : Quoting} {pair : Brackets UInt8} {bytes : List UInt8}

/-- What the search comes to while some delimiters are open. -/
structure Searching (quoting : Quoting) (pair : Brackets UInt8) (bytes : List UInt8) (s : Depth)
    (found : Option Nat) : Prop where
  opened : 0 < s.depth
  eq : found = (closing? (Marks.bytes.under quoting) pair .plain (s.depth - 1) (bytes.drop s.index)).map
    (s.index + ·)

theorem escape_under (marks : Marks UInt8) (quoting : Quoting) :
    (marks.under quoting).escape = marks.escape := by
  cases quoting <;> rfl

/-- At a quote a round goes on behind the quotation. -/
theorem depthRound_quote {b : UInt8} {s : Depth} (hb : bytes[s.index]? = some b)
    (hquote : b ∈ (Marks.bytes.under quoting).quotes) :
    depthRound quoting pair bytes s =
      .ok (match closingQuote? Marks.bytes.escape b false (bytes.drop (s.index + 1)) with
        | none => .done none
        | some n => .again ⟨s.index + 1 + n + 1, s.depth⟩) := by
  have hfind : findQuote bytes s.index =
      .ok ((closingQuote? Marks.bytes.escape b false (bytes.drop (s.index + 1))).map (s.index + 1 + ·)) := by
    rw [findQuote_eq, closingQuoteAt?, drop_of_getElem? hb]
  rw [depthRound, hb]
  simp only [if_pos hquote, hfind]
  cases closingQuote? Marks.bytes.escape b false (bytes.drop (s.index + 1)) <;> rfl

/-- At a delimiter one more or one less is open; one was the least that could be. -/
theorem depthRound_plain {b : UInt8} {index : Nat} (hb : bytes[index]? = some b)
    (hquote : b ∉ (Marks.bytes.under quoting).quotes) (nested : Nat) :
    depthRound quoting pair bytes ⟨index, nested + 1⟩ =
      .ok (if b = pair.opening then .again ⟨index + 1, nested + 2⟩
        else if b = pair.closing then
          if nested = 0 then .done (some index) else .again ⟨index + 1, nested⟩
        else .again ⟨index + 1, nested + 1⟩) := by
  have hless : difference (nested + 1) 1 = .ok nested := by rw [Nat.add_comm, difference_add]
  rw [depthRound]
  simp only [hb, if_neg hquote, hless]
  split
  · rfl
  · split
    · show (if nested = 0 then _ else _) = _
      split <;> rfl
    · rfl

/-- A round that goes on keeps what the search comes to. -/
theorem depthRound_cases {s : Depth} {found : Option Nat} (h : Searching quoting pair bytes s found) :
    depthRound quoting pair bytes s = .ok (.done found) ∨
      ∃ next, depthRound quoting pair bytes s = .ok (.again next) ∧
        Onward bytes s.index next.index ∧ Searching quoting pair bytes next found := by
  obtain ⟨index, depth⟩ := s
  obtain ⟨hopened, rfl⟩ := h
  obtain ⟨nested, rfl⟩ := Nat.exists_eq_add_of_lt hopened
  simp only [Nat.zero_add, Nat.add_sub_cancel]
  cases hb : bytes[index]? with
  | none =>
    rw [List.drop_of_length_le (List.getElem?_eq_none_iff.1 hb)]
    refine .inl ?_
    simp only [depthRound, hb]
    rfl
  | some b =>
    have hlt := lt_of_getElem? hb
    have hnext : Onward bytes index (index + 1) := ⟨hlt, Nat.lt_succ_self _⟩
    rw [drop_of_getElem? hb]
    by_cases hquote : b ∈ (Marks.bytes.under quoting).quotes
    · rw [depthRound_quote hb hquote, closing?_quote hquote, escape_under]
      cases closingQuote? Marks.bytes.escape b false (bytes.drop (index + 1)) with
      | none => exact .inl rfl
      | some n =>
        refine .inr ⟨⟨index + 1 + n + 1, nested + 1⟩, rfl, ⟨hlt, by simp only; omega⟩, Nat.succ_pos _, ?_⟩
        rw [Option.bind_some, Option.map_map, List.drop_drop]
        exact Option.map_congr fun m _ => by simp only [Function.comp]; omega
    · rw [depthRound_plain hb hquote, closing?_plain_cons hquote]
      by_cases hopening : b = pair.opening
      · simp only [if_pos hopening, map_succ_add]
        exact .inr ⟨⟨index + 1, nested + 2⟩, rfl, hnext, Nat.succ_pos _, rfl⟩
      · by_cases hclosing : b = pair.closing
        · simp only [if_neg hopening, if_pos hclosing]
          cases nested with
          | zero => exact .inl rfl
          | succ outer =>
            simp only [map_succ_add]
            exact .inr ⟨⟨index + 1, outer + 1⟩, rfl, hnext, Nat.succ_pos _, rfl⟩
        · simp only [if_neg hopening, if_neg hclosing, map_succ_add]
          exact .inr ⟨⟨index + 1, nested + 1⟩, rfl, hnext, Nat.succ_pos _, rfl⟩

/-- The depth never goes below zero, and the loop finds what a scan finds. -/
theorem findClosing_eq (hopening : pair.opening ∉ (Marks.bytes.under quoting).quotes) (start : Nat) :
    findClosing quoting pair bytes start =
      .ok (closingAt? (Marks.bytes.under quoting) pair bytes start) := by
  rw [findClosing, closingAt?]
  cases hb : bytes[start]? with
  | none =>
    rw [List.drop_of_length_le (List.getElem?_eq_none_iff.1 hb)]
    rfl
  | some b =>
    rw [drop_of_getElem? hb]
    by_cases hopen : b = pair.opening
    · subst hopen
      simp only [ne_eq, not_true_eq_false, if_false]
      split
      · rw [findQuote_eq, escape_under]
      · have hround : depthRound quoting pair bytes ⟨start, 0⟩ = .ok (.again ⟨start + 1, 1⟩) := by
          simp only [depthRound, hb, if_neg hopening, if_true]
        have hruns : Runs (depthRound quoting pair bytes) (fun s next => Onward bytes s.index next.index)
            ⟨start + 1, 1⟩ _ :=
          runs_of_invariant (bytes.length - ·.index) (fun _ _ h => h.left_lt) (fun _ _ => depthRound_cases)
            ⟨Nat.one_pos, rfl⟩
        exact (Runs.again hround ⟨lt_of_getElem? hb, Nat.lt_succ_self _⟩ hruns).loop_eq
          fun _ _ h => h.left_lt
    · simp only [ne_eq, Option.some_inj, hopen, not_false_eq_true, if_true]

end Depth

/-! ### Delimiters by counting -/

theorem exists_filler (pair : Brackets UInt8) :
    ∃ filler : UInt8, filler ≠ pair.opening ∧ filler ≠ pair.closing := by
  -- Of three bytes one is neither.
  by_cases h0 : (0 : UInt8) ≠ pair.opening ∧ (0 : UInt8) ≠ pair.closing
  · exact ⟨0, h0⟩
  · by_cases h1 : (1 : UInt8) ≠ pair.opening ∧ (1 : UInt8) ≠ pair.closing
    · exact ⟨1, h1⟩
    · exact ⟨2, by grind⟩

/-- **A delimiter is closed where counting says.** Searching by index and depth never goes below
depth zero. Where quotations count for nothing it finds the least index up to which as many
delimiters are closed as are opened, and nothing if there is none; where they are passed over it
finds what it finds, without passing over any, in the text in which every quotation is
overwritten. -/
theorem closed_where_counts_agree {pair : Brackets UInt8} (hne : pair.opening ≠ pair.closing)
    (hopening : pair.opening ∉ Marks.bytes.quotes) (bytes : List UInt8) (start : Nat) :
    (∀ quoting, findClosing quoting pair bytes start =
        .ok (closingAt? (Marks.bytes.under quoting) pair bytes start)) ∧
      (∀ stop, closingAt? (Marks.bytes.under .literal) pair bytes start = some stop ↔
        bytes[start]? = some pair.opening ∧ IsLeast {stop | EvenUpTo pair bytes start stop} stop) ∧
      (closingAt? (Marks.bytes.under .literal) pair bytes start = none ↔
        bytes[start]? ≠ some pair.opening ∨ ∀ stop, ¬ EvenUpTo pair bytes start stop) ∧
      (∃ masked, Overwritten Marks.bytes pair (bytes.drop start) masked) ∧
      ∀ masked, Overwritten Marks.bytes pair (bytes.drop start) masked →
        closingAt? (Marks.bytes.under .skipStrings) pair bytes start =
          closingAt? (Marks.bytes.under .literal) pair (bytes.take start ++ masked) start := by
  have hescape : Marks.bytes.escape ∉ Marks.bytes.quotes := by decide
  refine ⟨fun quoting => findClosing_eq ?_ start, fun stop => closingAt?_literal_eq_some_iff hne,
    closingAt?_literal_eq_none_iff hne, ?_, fun masked h => closingAt?_overwritten hescape hne hopening h⟩
  · cases quoting with
    | literal => exact List.not_mem_nil
    | skipStrings => exact hopening
  · obtain ⟨filler, hfiller⟩ := exists_filler pair
    exact exists_overwritten hescape hfiller _

/-- Brackets in quotations, behind an escaped quote and behind an escaped longer character. -/
theorem closed_where_counts_agree_escapes :
    let pair := Brackets.square.utf8
    let bytes := Text.utf8 "é[\"]\\\"\\é[\",[']'\x60]\x60]]".toList
    pair.opening ≠ pair.closing ∧ pair.opening ∉ Marks.bytes.quotes ∧
      findClosing .skipStrings pair bytes 2 = .ok (some 21) ∧
      IsLeast {stop | EvenUpTo pair bytes 2 stop} 4 := by
  intro pair bytes
  have hne : pair.opening ≠ pair.closing := by decide
  have hopening : pair.opening ∉ Marks.bytes.quotes := by decide
  obtain ⟨hfind, hleast, -⟩ := closed_where_counts_agree hne hopening bytes 2
  refine ⟨hne, hopening, ?_, ((hleast 4).1 (by decide)).2⟩
  have hclose : closingAt? (Marks.bytes.under .skipStrings) pair bytes 2 = some 21 := by decide
  rw [hfind, hclose]

end StyleSnapshot.Offsets
