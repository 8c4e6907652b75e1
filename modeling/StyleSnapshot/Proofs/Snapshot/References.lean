import StyleSnapshot.Proofs.Stylesheet.Braces
import StyleSnapshot.Proofs.Text.Parts
import StyleSnapshot.Proofs.Text.Places
import StyleSnapshot.Snapshot.Basic

/-! Where reference blocks are dropped.

A reference block is a prelude, a balanced body and the blanks behind them
(`eq_of_afterReference?`), so dropping one leaves the nesting of the text as it was. Which
blocks are dropped from the body of a block does not depend on what stands behind it:
`stripReferences_body` strips the body by itself. Text in which no reference block begins
is passed on as it is (`stripReferences_clear`). -/
namespace StyleSnapshot.Snapshot

/-! ### Keywords in front of a brace -/

theorem atWordEnd_guard {c : Char} (h : isWord c = false) (t x : Text) :
    atWordEnd (t ++ c :: x) = atWordEnd t := by
  cases t <;> simp [atWordEnd, h]

theorem afterWord?_guard {lead : Text} {c : Char} (h : c ∉ lead) (hword : isWord c = false)
    (t x : Text) : afterWord? lead (t ++ c :: x) = (afterWord? lead t).map (· ++ c :: x) := by
  rw [afterWord?, afterWord?, Text.after?_guard h]
  cases Text.after? lead t with
  | none => rfl
  | some rest =>
    simp only [Option.map_some, Option.filter_some, atWordEnd_guard hword]
    split <;> rfl

theorem afterLayer?_guard {c : Char} (h : c = '\x7b' ∨ c = '\x7d') (t x : Text) :
    afterLayer? (t ++ c :: x) = (afterLayer? t).map (· ++ c :: x) := by
  have hblank : isBlank c = false := by rcases h with rfl | rfl <;> decide
  have hlayer : c ∉ "@layer".toList := by rcases h with rfl | rfl <;> decide
  have hname : c ∉ "properties".toList := by rcases h with rfl | rfl <;> decide
  have hword : isWord c = false := by rcases h with rfl | rfl <;> decide
  rw [afterLayer?, afterLayer?, Text.after?_guard hlayer]
  cases Text.after? "@layer".toList t with
  | none => rfl
  | some rest =>
    cases rest with
    | nil => simp [hblank]
    | cons d rest =>
      simp only [Option.map_some, List.cons_append]
      split
      · rw [Text.trimStart, Text.dropWhile_guard hblank, afterWord?_guard hname hword]
        rfl
      · rfl

theorem afterRoot?_guard {c : Char} (h : c = '\x7b' ∨ c = '\x7d') (before : Option Char)
    (t x : Text) : afterRoot? before (t ++ c :: x) = (afterRoot? before t).map (· ++ c :: x) := by
  have hspace : (decide (c = ' ') || decide (c = '\t')) = false := by rcases h with rfl | rfl <;> decide
  have hroot : c ∉ ":root".toList := by rcases h with rfl | rfl <;> decide
  have hword : isWord c = false := by rcases h with rfl | rfl <;> decide
  rw [afterRoot?, afterRoot?]
  split
  · rw [Text.dropWhile_guard hspace, afterWord?_guard hroot hword]
  · rfl

/-- A keyword ends before the next brace. -/
theorem keyword?_guard {c : Char} (h : c = '\x7b' ∨ c = '\x7d') (before : Option Char) (t x : Text) :
    keyword? before (t ++ c :: x) =
      (keyword? before t).map fun found => (found.1, found.2 ++ c :: x) := by
  have hproperty : c ∉ "@property".toList := by rcases h with rfl | rfl <;> decide
  have hsupports : c ∉ "@supports".toList := by rcases h with rfl | rfl <;> decide
  have hword : isWord c = false := by rcases h with rfl | rfl <;> decide
  rw [keyword?, keyword?, afterLayer?_guard h, afterWord?_guard hproperty hword,
    afterWord?_guard hsupports hword, afterRoot?_guard h]
  cases afterLayer? t <;> cases afterWord? "@property".toList t <;>
    cases afterWord? "@supports".toList t <;> cases afterRoot? before t <;> rfl

theorem keyword?_suffix {before : Option Char} {t rest : Text} {keyword : Keyword}
    (h : keyword? before t = some (keyword, rest)) : rest <:+ t := by
  have hword {lead t rest : Text} (h : afterWord? lead t = some rest) : rest <:+ t :=
    ⟨lead, (Text.after?_eq_some_iff.1 (Option.filter_eq_some_iff.1 h).1).symm⟩
  simp only [keyword?, Option.orElse_eq_orElse, Option.orElse_eq_or, Option.or_eq_some_iff,
    Option.map_eq_some_iff, Prod.mk.injEq] at h
  rcases h with ⟨r, hr, -, rfl⟩ | ⟨-, ⟨r, hr, -, rfl⟩ | ⟨-, ⟨r, hr, -, rfl⟩ | ⟨-, r, hr, -, rfl⟩⟩⟩
  · simp only [afterLayer?] at hr
    split at hr
    · next c rest' h' =>
      have hlayer : c :: rest' <:+ t := ⟨_, (Text.after?_eq_some_iff.1 h').symm⟩
      split at hr
      · exact (hword hr).trans ((List.dropWhile_suffix _).trans
          ((List.suffix_cons c rest').trans hlayer))
      · simp at hr
    · simp at hr
  · exact hword hr
  · exact hword hr
  · simp only [afterRoot?] at hr
    split at hr
    · exact (hword hr).trans (List.dropWhile_suffix _)
    · simp at hr

/-! ### A reference block and what surrounds it -/

/-- Whether the text in front of a brace is the prelude of a reference block. -/
def opensReference (before : Option Char) (prelude : Text) : Bool :=
  (keyword? before prelude).any fun found => isPrelude found.1 found.2

theorem not_mem_of_opensReference {before : Option Char} {prelude : Text}
    (h : opensReference before prelude = true) : '\x7d' ∉ prelude := by
  intro hmem
  obtain ⟨a, b, rfl⟩ := List.append_of_mem hmem
  rw [opensReference, keyword?_guard (Or.inr rfl)] at h
  cases hk : keyword? before a with
  | none => simp [hk] at h
  | some found => simp [hk, isPrelude] at h

theorem afterReference?_of_no_brace {t : Text} (h : '\x7b' ∉ t) (before : Option Char) :
    afterReference? before t = none := by
  rw [afterReference?]
  cases hk : keyword? before t with
  | none => rfl
  | some found =>
    have hrest : '\x7b' ∉ found.2 := fun hmem => h ((keyword?_suffix hk).mem hmem)
    simp only [Option.bind_some, afterBlock?, dropWhile_no_brace hrest]

/-- A block is a reference block if its prelude says so. -/
theorem afterReference?_block {prelude body : Text} (hprelude : '\x7b' ∉ prelude)
    (hbody : Balanced body) (before : Option Char) (rest : Text) :
    afterReference? before (prelude ++ '\x7b' :: body ++ '\x7d' :: rest) =
      if opensReference before prelude then some (rest.dropWhile isAsciiBlank) else none := by
  rw [List.append_assoc, List.cons_append, afterReference?, keyword?_guard (Or.inl rfl),
    opensReference]
  cases hk : keyword? before prelude with
  | none => rfl
  | some found =>
    have hrest : '\x7b' ∉ found.2 := fun hmem => hprelude ((keyword?_suffix hk).mem hmem)
    have hclose : closingBrace? (body ++ '\x7d' :: rest) = some body.length :=
      closingFrom?_body hbody rest
    simp only [Option.map_some, Option.bind_some, Option.any_some, afterBlock?, hclose,
      dropWhile_brace hrest, takeWhile_brace hrest]
    simp

theorem eq_of_afterReference? {before : Option Char} {t following : Text}
    (h : afterReference? before t = some following) :
    ∃ prelude body w, t = prelude ++ '\x7b' :: body ++ '\x7d' :: (w ++ following) ∧
      '\x7b' ∉ prelude ∧ opensReference before prelude = true ∧ Balanced body ∧
      ∀ c ∈ w, isAsciiBlank c = true := by
  have hmem : '\x7b' ∈ t := by
    by_contra hmem
    rw [afterReference?_of_no_brace hmem] at h
    exact Option.some_ne_none _ h.symm
  obtain ⟨prelude, inside, rfl, hprelude⟩ := List.eq_append_cons_of_mem hmem
  -- The block is closed, or nothing would be dropped.
  obtain ⟨body, rest, rfl, hbody⟩ :
      ∃ body rest, inside = body ++ '\x7d' :: rest ∧ Balanced body := by
    rw [afterReference?, keyword?_guard (Or.inl rfl)] at h
    obtain ⟨⟨keyword, middle⟩, hk, hb⟩ := Option.bind_eq_some_iff.1 h
    obtain ⟨found, hfound, heq⟩ := Option.map_eq_some_iff.1 hk
    obtain ⟨rfl, rfl⟩ := Prod.mk.inj heq
    have hrest : '\x7b' ∉ found.2 := fun hmem => hprelude ((keyword?_suffix hfound).mem hmem)
    simp only [afterBlock?, dropWhile_brace hrest] at hb
    split at hb
    · obtain ⟨n, hn, -⟩ := Option.map_eq_some_iff.1 hb
      obtain ⟨body, rest, hinside, -, hbody⟩ := eq_of_closingFrom? hn
      exact ⟨body, rest, hinside, hbody⟩
    · exact absurd hb.symm (Option.some_ne_none _)
  have hblock := afterReference?_block hprelude hbody before rest
  rw [List.append_assoc, List.cons_append, h] at hblock
  split at hblock
  · next hopens =>
    obtain rfl := Option.some.inj hblock
    refine ⟨prelude, body, rest.takeWhile isAsciiBlank, ?_, hprelude, hopens, hbody, fun c hc => ?_⟩
    · rw [List.takeWhile_append_dropWhile, List.append_assoc, List.cons_append]
    · exact List.mem_takeWhile_imp hc
  · exact absurd hblock (Option.some_ne_none _)

theorem not_brace_of_isAsciiBlank {w : Text} (h : ∀ c ∈ w, isAsciiBlank c = true) :
    '\x7b' ∉ w ∧ '\x7d' ∉ w :=
  ⟨fun hmem => absurd (h _ hmem) (by decide), fun hmem => absurd (h _ hmem) (by decide)⟩

/-- A reference block leaves the nesting behind it as it was in front. -/
theorem depth?_of_afterReference? {before : Option Char} {t following : Text}
    (h : afterReference? before t = some following) (d : Nat) : depth? d following = depth? d t := by
  obtain ⟨prelude, body, w, rfl, hprelude, hopens, hbody, hw⟩ := eq_of_afterReference? h
  have h1 : depth? d prelude = some d :=
    depth?_of_not_mem hprelude (not_mem_of_opensReference hopens) d
  have h2 : depth? d w = some d :=
    depth?_of_not_mem (not_brace_of_isAsciiBlank hw).1 (not_brace_of_isAsciiBlank hw).2 d
  have hblock : depth? d ('\x7b' :: (body ++ '\x7d' :: (w ++ following))) = depth? d following := by
    show depth? (d + 1) (body ++ '\x7d' :: (w ++ following)) = depth? d following
    rw [depth?_append, hbody.depth? (d + 1)]
    show depth? d (w ++ following) = depth? d following
    rw [depth?_append, h2, Option.bind_some]
  rw [List.append_assoc, List.cons_append, depth?_append, h1, Option.bind_some, hblock]

theorem depth?_stripReferences {before : Option Char} {t : Text} {d m : Nat}
    (h : depth? d t = some m) : depth? d (stripReferences before t) = some m := by
  fun_induction stripReferences before t generalizing d with
  | case1 => exact h
  | case2 before c t following hf ih => exact ih ((depth?_of_afterReference? hf d).trans h)
  | case3 before c t hnone ih =>
    obtain ⟨rfl, h⟩ | ⟨e, rfl, rfl, h⟩ | ⟨ho, hc, h⟩ := depth?_cons_cases h
    · exact ih h
    · exact ih h
    · rw [depth?_of_ne ho hc]
      exact ih h

/-! ### The body of a block -/

theorem afterBlock?_of_close {t : Text} (h : '\x7b' ∉ t) (keyword : Keyword) (x : Text) :
    afterBlock? keyword (t ++ '\x7d' :: x) = none := by
  have htake : isPrelude keyword ((t ++ '\x7d' :: x).takeWhile (· ≠ '\x7b')) = false := by
    rw [List.takeWhile_append_of_pos (ne_of_not_mem h)]
    simp [isPrelude]
  simp only [afterBlock?, htake]
  split <;> rfl

/-- No reference block that begins in a body reaches beyond it. -/
theorem afterReference?_guard {d : Nat} {t : Text} (h : depth? d t = some 0)
    (before : Option Char) (x : Text) : afterReference? before (t ++ '\x7d' :: x) =
      (afterReference? before t).map (· ++ '\x7d' :: x) := by
  by_cases hmem : '\x7b' ∈ t
  · obtain ⟨prelude, inside, rfl, hprelude⟩ := List.eq_append_cons_of_mem hmem
    obtain ⟨body, rest, rfl, hbody⟩ := exists_body h
    have h1 := afterReference?_block hprelude hbody before rest
    have h2 := afterReference?_block hprelude hbody before (rest ++ '\x7d' :: x)
    rw [Text.dropWhile_guard (by decide)] at h2
    simp only [List.append_assoc, List.cons_append] at h1 h2 ⊢
    rw [h1, h2]
    split <;> rfl
  · rw [afterReference?_of_no_brace hmem, afterReference?, keyword?_guard (Or.inr rfl)]
    cases hk : keyword? before t with
    | none => rfl
    | some found =>
      have hrest : '\x7b' ∉ found.2 := fun hin => hmem ((keyword?_suffix hk).mem hin)
      exact afterBlock?_of_close hrest found.1 x

/-- The body of a block is stripped by itself. -/
theorem stripReferences_body {d : Nat} {t : Text} (h : depth? d t = some 0) (before : Option Char)
    (rest : Text) : stripReferences before (t ++ '\x7d' :: rest) =
      stripReferences before t ++ '\x7d' :: stripReferences (some '\x7d') rest := by
  fun_induction stripReferences before t generalizing d with
  | case1 before =>
    have hnone := afterReference?_guard (t := []) h before rest
    rw [afterReference?_of_no_brace List.not_mem_nil] at hnone
    exact stripReferences_of_none hnone
  | case2 before c t following hf ih =>
    have hguard := afterReference?_guard h before rest
    rw [hf] at hguard
    rw [stripReferences_of_some hguard]
    exact ih ((depth?_of_afterReference? hf d).trans h)
  | case3 before c t hnone ih =>
    have hguard := afterReference?_guard h before rest
    rw [hnone] at hguard
    obtain ⟨e, he⟩ := depth?_tail h
    calc stripReferences before (c :: (t ++ '\x7d' :: rest))
        = c :: stripReferences (some c) (t ++ '\x7d' :: rest) := stripReferences_of_none hguard
      _ = _ := by rw [ih he, List.cons_append]

/-! ### Text that stays -/

theorem stripReferences_of_no_brace {t : Text} (h : '\x7b' ∉ t) (before : Option Char) :
    stripReferences before t = t := by
  induction t generalizing before with
  | nil => exact stripReferences_nil before
  | cons c t ih =>
    rw [stripReferences_of_none (afterReference?_of_no_brace h before),
      ih fun hmem => h (List.mem_cons_of_mem _ hmem)]

/-- Text in which no reference block begins stays. -/
theorem stripReferences_clear {before : Option Char} {t rest : Text}
    (h : Text.Clear afterReference? before t rest) :
    stripReferences before (t ++ rest) = t ++ stripReferences (Text.endOf before t) rest := by
  induction t generalizing before with
  | nil => rfl
  | cons c t ih =>
    calc stripReferences before (c :: (t ++ rest))
        = c :: stripReferences (some c) (t ++ rest) := stripReferences_of_none h.1
      _ = c :: (t ++ stripReferences (Text.endOf (some c) t) rest) := by rw [ih h.2]

/-- A brace begins no reference block. -/
theorem afterReference?_brace (before : Option Char) (t : Text) :
    afterReference? before ('\x7b' :: t) = none := by
  have hnil : keyword? before [] = none := by
    refine Option.eq_none_iff_forall_ne_some.2 fun found hk => ?_
    exact absurd (keyword?_length hk) (Nat.not_lt_zero _)
  have hguard := keyword?_guard (Or.inl rfl) before [] t
  rw [hnil, List.nil_append] at hguard
  rw [afterReference?, hguard]
  rfl

end StyleSnapshot.Snapshot
