import StyleSnapshot.Proofs.Stylesheet.Braces
import StyleSnapshot.Proofs.Stylesheet.Rules
import StyleSnapshot.Proofs.Text.Parts

/-! A stylesheet as it is written.

A block is written as blanks and comments, a prelude, and a body in braces. `pieces_block`
says that reading a stylesheet goes block by block: what a block becomes depends on
nothing around it. The rules that result are the rule blocks in order, folded together
where they share a selector (`rules_parse`). -/
namespace StyleSnapshot.Stylesheet

/-! ### Blanks and comments -/

/-- Blanks and closed comments. -/
inductive Trivia : Text → Prop
  | nil : Trivia []
  | blank {c : Char} {t : Text} : isBlank c = true → Trivia t → Trivia (c :: t)
  /-- The first closing mark behind the opening one ends the comment. -/
  | comment {inside t : Text} : Text.cut? commentClose (inside ++ commentClose) = some (inside, []) →
      Trivia t → Trivia (commentOpen ++ inside ++ commentClose ++ t)

/-- A text that begins with neither a blank nor a comment. -/
structure Plain (t : Text) : Prop where
  head : ∀ c, t.head? = some c → isBlank c = false
  comment : Text.after? commentOpen t = none

theorem trivia_of_blanks {w : Text} (h : ∀ c ∈ w, isBlank c = true) : Trivia w := by
  induction w with
  | nil => exact .nil
  | cons c w ih =>
    exact .blank (h c List.mem_cons_self) (ih fun d hd => h d (List.mem_cons_of_mem _ hd))

theorem Trivia.append {a b : Text} (ha : Trivia a) (hb : Trivia b) : Trivia (a ++ b) := by
  induction ha with
  | nil => exact hb
  | blank hc _ ih => exact .blank hc ih
  | comment hcut _ ih =>
    rw [List.append_assoc]
    exact .comment hcut ih

theorem skipTrivia_congr {t u : Text} (h : Text.trimStart t = Text.trimStart u) :
    skipTrivia t = skipTrivia u := by
  cases ho : Text.after? commentOpen (Text.trimStart u) with
  | none => rw [skipTrivia_of_none ho, skipTrivia_of_none (h ▸ ho), h]
  | some inside =>
    cases hc : Text.cut? commentClose inside with
    | none => rw [skipTrivia_of_open ho hc, skipTrivia_of_open (h ▸ ho) hc]
    | some parts => rw [skipTrivia_of_closed ho hc, skipTrivia_of_closed (h ▸ ho) hc]

theorem skipTrivia_comment {inside : Text}
    (h : Text.cut? commentClose (inside ++ commentClose) = some (inside, [])) (t : Text) :
    skipTrivia (commentOpen ++ inside ++ commentClose ++ t) = skipTrivia t := by
  have htrim : Text.trimStart (commentOpen ++ inside ++ commentClose ++ t) =
      commentOpen ++ (inside ++ commentClose ++ t) := by
    simp only [List.append_assoc]
    exact Text.trimStart_cons_of_not_blank (by decide) _
  refine skipTrivia_of_closed ?_ (Text.cut?_append h t)
  rw [htrim, Text.after?_self]

theorem skipTrivia_trivia {lead : Text} (h : Trivia lead) (t : Text) :
    skipTrivia (lead ++ t) = skipTrivia t := by
  induction h with
  | nil => rfl
  | @blank c w hc _ ih =>
    rw [← ih]
    exact skipTrivia_congr (by simp [Text.trimStart, hc])
  | comment hcut _ ih => rw [List.append_assoc, skipTrivia_comment hcut, ih]

theorem skipTrivia_of_plain {t : Text} (h : Plain t) : skipTrivia t = t := by
  have htrim := Text.trimStart_eq_self h.head
  rw [skipTrivia_of_none (by rw [htrim]; exact h.comment), htrim]

/-- Whether a text begins plainly is settled before the brace that follows it. -/
theorem Plain.brace {t : Text} (h : Plain t) (x : Text) : Plain (t ++ '\x7b' :: x) where
  head c hc := by
    cases t with
    | nil =>
      obtain rfl := Option.some.inj hc
      decide
    | cons d t => exact h.head c hc
  comment := by rw [Text.after?_guard (by decide), h.comment]; rfl

theorem Plain.of_brace {t x : Text} (h : Plain (t ++ '\x7b' :: x)) : Plain t where
  head c hc := h.head c (by rw [List.head?_append, hc]; rfl)
  comment := by
    have hcomment := h.comment
    rw [Text.after?_guard (by decide)] at hcomment
    exact Option.map_eq_none_iff.1 hcomment

theorem stripComments_of_not_infix {t : Text} (h : ¬ commentOpen <:+: t) : stripComments t = t := by
  have hcut : Text.cut? commentOpen t = none := Text.cut?_eq_none_iff.2 h
  rw [stripComments]
  split
  · rfl
  · next hsome => exact absurd (hcut.symm.trans hsome) (Option.some_ne_none _).symm

/-- A comment in front of which there is none is taken out. -/
theorem stripComments_of_closed {t before inside comment following : Text}
    (hopen : Text.cut? commentOpen t = some (before, inside))
    (hclose : Text.cut? commentClose inside = some (comment, following)) :
    stripComments t = before ++ stripComments following := by
  rw [stripComments]
  split
  · next h => exact absurd (hopen.symm.trans h) (Option.some_ne_none _)
  · next h =>
    obtain ⟨rfl, rfl⟩ := Prod.mk.inj (Option.some.inj (hopen.symm.trans h))
    split
    · next h' => exact absurd (hclose.symm.trans h') (Option.some_ne_none _)
    · next h' =>
      obtain ⟨rfl, rfl⟩ := Prod.mk.inj (Option.some.inj (hclose.symm.trans h'))
      rfl

/-- A comment that is never closed reaches to the end. -/
theorem stripComments_of_open {t before inside : Text}
    (hopen : Text.cut? commentOpen t = some (before, inside))
    (hclose : Text.cut? commentClose inside = none) : stripComments t = before := by
  rw [stripComments]
  split
  · next h => exact absurd (hopen.symm.trans h) (Option.some_ne_none _)
  · next h =>
    obtain ⟨rfl, rfl⟩ := Prod.mk.inj (Option.some.inj (hopen.symm.trans h))
    split
    · rfl
    · next h' => exact absurd (h'.symm.trans hclose) (Option.some_ne_none _)

/-! ### Preludes -/

theorem mem_of_mem_selectorOf {c : Char} {prelude : Text} (h : c ∈ selectorOf prelude) :
    c ∈ prelude :=
  List.mem_reverse.1 ((List.takeWhile_sublist _).mem (List.mem_reverse.1 (Text.mem_of_mem_trim h)))

theorem selectorOf_of_not_mem {prelude : Text} (h : '\x7d' ∉ prelude) :
    selectorOf prelude = Text.trim prelude := by
  have htake : prelude.reverse.takeWhile (· ≠ '\x7d') = prelude.reverse :=
    List.takeWhile_eq_self_iff.2 (ne_of_not_mem fun hmem => h (List.mem_reverse.1 hmem))
  rw [selectorOf, htake, List.reverse_reverse]

theorem selectorOf_behind {behind : Text} (h : '\x7d' ∉ behind) (front : Text) :
    selectorOf (front ++ '\x7d' :: behind) = Text.trim behind := by
  have hreverse : (front ++ '\x7d' :: behind).reverse = behind.reverse ++ '\x7d' :: front.reverse := by
    simp
  have htake : (behind.reverse ++ '\x7d' :: front.reverse).takeWhile (· ≠ '\x7d') = behind.reverse :=
    Text.takeWhile_run (by decide) (ne_of_not_mem fun hmem => h (List.mem_reverse.1 hmem)) _
  rw [selectorOf, hreverse, htake, List.reverse_reverse]

theorem selector_of_rule? {prelude body : Text} {d : Rule}
    (h : (Piece.ofBlock prelude body).rule? = some d) : d.selector = selectorOf prelude := by
  simp only [Piece.ofBlock] at h
  split at h
  · simp [Piece.rule?] at h
  · split at h
    · simp [Piece.rule?] at h
    · rw [← Option.some.inj h]

/-! ### Blocks -/

/-- A block of a stylesheet at the top level, as it is written. -/
structure Block where
  /-- Blanks and comments in front. -/
  lead : Text
  prelude : Text
  body : Text
  trivia : Trivia lead
  plain : Plain prelude
  /-- The block begins with the first brace behind the prelude. -/
  no_brace : '\x7b' ∉ prelude
  balanced : Balanced body

namespace Block

def text (b : Block) : Text := b.lead ++ b.prelude ++ '\x7b' :: b.body ++ ['\x7d']

def piece (b : Block) : Piece := .ofBlock b.prelude b.body

end Block

/-- The first piece of a text whose first brace is closed. -/
theorem nextPiece?_of_closed {t prelude inside : Text} {n : Nat}
    (h : skipTrivia t = prelude ++ '\x7b' :: inside) (hbrace : '\x7b' ∉ prelude)
    (hclose : closingFrom? 0 inside = some n) :
    nextPiece? t = some (.ofBlock prelude (inside.take n), inside.drop (n + 1)) := by
  rw [closingFrom?] at hclose
  simp only [nextPiece?, h, dropWhile_brace hbrace, takeWhile_brace hbrace, hclose]

/-- A block that is never closed reaches to the end. -/
theorem nextPiece?_of_open {t prelude inside : Text}
    (h : skipTrivia t = prelude ++ '\x7b' :: inside) (hbrace : '\x7b' ∉ prelude)
    (hclose : closingFrom? 0 inside = none) :
    nextPiece? t = some (.unparsed (Text.collapse (skipTrivia t)), []) := by
  rw [closingFrom?] at hclose
  simp only [nextPiece?, h, dropWhile_brace hbrace, hclose]

/-- A block begins behind the blanks and comments in front of it. -/
theorem skipTrivia_block (b : Block) (rest : Text) :
    skipTrivia (b.text ++ rest) = b.prelude ++ '\x7b' :: (b.body ++ '\x7d' :: rest) := by
  simp only [Block.text, List.append_assoc, List.cons_append, List.nil_append]
  rw [skipTrivia_trivia b.trivia, skipTrivia_of_plain (b.plain.brace _)]

theorem nextPiece?_block (b : Block) (rest : Text) :
    nextPiece? (b.text ++ rest) = some (b.piece, rest) := by
  rw [nextPiece?_of_closed (skipTrivia_block b rest) b.no_brace (closingFrom?_body b.balanced rest)]
  simp [Block.piece]

/-- The first piece behind some blanks and comments is the block that stands there. -/
theorem nextPiece?_of_trivia {lead prelude body : Text} (hlead : Trivia lead) (hplain : Plain prelude)
    (hbrace : '\x7b' ∉ prelude) (hbody : Balanced body) (rest : Text) :
    nextPiece? (lead ++ prelude ++ '\x7b' :: body ++ '\x7d' :: rest) =
      some (.ofBlock prelude body, rest) := by
  have hnext := nextPiece?_block ⟨lead, prelude, body, hlead, hplain, hbrace, hbody⟩ rest
  rwa [Block.text, List.append_assoc _ ['\x7d']] at hnext

/-- A stylesheet is read block by block. -/
theorem pieces_block (b : Block) (rest : Text) : pieces (b.text ++ rest) = b.piece :: pieces rest :=
  pieces_of_some (nextPiece?_block b rest)

/-- What is passed over in front of a text does not matter. -/
theorem pieces_congr {t u : Text} (h : skipTrivia t = skipTrivia u) : pieces t = pieces u := by
  have hnext : nextPiece? t = nextPiece? u := by simp only [nextPiece?, h]
  cases hu : nextPiece? u with
  | none => rw [pieces_of_none hu, pieces_of_none (hnext.trans hu)]
  | some found => rw [pieces_of_some hu, pieces_of_some (hnext.trans hu)]

theorem pieces_blanks {w : Text} (h : ∀ c ∈ w, isBlank c = true) (t : Text) :
    pieces (w ++ t) = pieces t :=
  pieces_congr (skipTrivia_trivia (trivia_of_blanks h) t)

/-- Text without a brace holds no piece. -/
theorem nextPiece?_of_no_brace {t : Text} (h : '\x7b' ∉ skipTrivia t) : nextPiece? t = none := by
  simp only [nextPiece?, dropWhile_no_brace h]

theorem pieces_nil : pieces [] = [] := by
  have hskip : skipTrivia [] = [] := skipTrivia_of_none rfl
  exact pieces_of_none (nextPiece?_of_no_brace (by simp [hskip]))

theorem exists_piece {t : Text} (h : '\x7b' ∈ skipTrivia t) :
    ∃ piece rest, nextPiece? t = some (piece, rest) := by
  obtain ⟨prelude, inside, hsplit, hprelude⟩ := List.eq_append_cons_of_mem h
  cases hclose : closingFrom? 0 inside with
  | none => exact ⟨_, _, nextPiece?_of_open hsplit hprelude hclose⟩
  | some n => exact ⟨_, _, nextPiece?_of_closed hsplit hprelude hclose⟩

/-- The first piece of a text is a block with a balanced body, or, where a block is never closed,
the whole text. -/
theorem cases_of_nextPiece? {t rest : Text} {piece : Piece} (h : nextPiece? t = some (piece, rest)) :
    (∃ prelude body, skipTrivia t = prelude ++ '\x7b' :: (body ++ '\x7d' :: rest) ∧
        '\x7b' ∉ prelude ∧ Balanced body ∧ piece = .ofBlock prelude body) ∨
      '\x7b' ∈ skipTrivia t ∧ rest = [] ∧ piece = .unparsed (Text.collapse (skipTrivia t)) := by
  by_cases hmem : '\x7b' ∈ skipTrivia t
  · obtain ⟨prelude, inside, hsplit, hprelude⟩ := List.eq_append_cons_of_mem hmem
    cases hclose : closingFrom? 0 inside with
    | none =>
      rw [nextPiece?_of_open hsplit hprelude hclose] at h
      obtain ⟨rfl, rfl⟩ := Prod.mk.inj (Option.some.inj h)
      exact .inr ⟨hmem, rfl, rfl⟩
    | some n =>
      obtain ⟨body, behind, rfl, rfl, hbody⟩ := eq_of_closingFrom? hclose
      rw [nextPiece?_of_closed hsplit hprelude hclose] at h
      obtain ⟨rfl, rfl⟩ := Prod.mk.inj (Option.some.inj h)
      exact .inl ⟨prelude, body, by simpa using hsplit, hprelude, hbody, by rw [List.take_left]⟩
  · rw [nextPiece?_of_no_brace hmem] at h
    exact absurd h.symm (Option.some_ne_none _)

/-- Every text is some blanks and comments and a text that begins with neither, unless a
comment in front stays open. -/
theorem exists_trivia (t : Text) : ∃ lead, t = lead ++ skipTrivia t ∧
    (skipTrivia t ≠ [] → Trivia lead ∧ Plain (skipTrivia t)) := by
  have blanks (t : Text) : Trivia (t.takeWhile isBlank) :=
    trivia_of_blanks fun c hc => List.mem_takeWhile_imp hc
  fun_induction skipTrivia t with
  | case1 t trimmed h =>
    refine ⟨t.takeWhile isBlank, List.takeWhile_append_dropWhile.symm, fun _ => ⟨blanks t, ?_, h⟩⟩
    intro c hc
    have hhead := List.head?_dropWhile_not isBlank t
    rw [show t.dropWhile isBlank = trimmed from rfl, hc] at hhead
    simpa using hhead
  | case2 t => exact ⟨t, (List.append_nil t).symm, fun h => absurd rfl h⟩
  | case3 t trimmed inside h comment following hcut ih =>
    obtain ⟨lead, hlead, htrivia⟩ := ih
    have hinside := Text.eq_of_cut? hcut
    have hclosed : Text.cut? commentClose (comment ++ commentClose) = some (comment, []) :=
      Text.cut?_of_append (hinside ▸ hcut)
    refine ⟨t.takeWhile isBlank ++ (commentOpen ++ comment ++ commentClose ++ lead), ?_, fun hne =>
      ⟨(blanks t).append (.comment hclosed (htrivia hne).1), (htrivia hne).2⟩⟩
    calc t = t.takeWhile isBlank ++ trimmed := List.takeWhile_append_dropWhile.symm
      _ = t.takeWhile isBlank ++ (commentOpen ++ inside) := by rw [Text.after?_eq_some_iff.1 h]
      _ = t.takeWhile isBlank ++ (commentOpen ++ (comment ++ commentClose ++ following)) := by
        rw [← hinside]
      _ = _ := by
        conv_lhs => rw [hlead]
        simp only [List.append_assoc]

/-- A text whose first brace is closed begins with a block. -/
theorem exists_block_of_closed {t prelude inside : Text} {n : Nat}
    (hskip : skipTrivia t = prelude ++ '\x7b' :: inside) (hbrace : '\x7b' ∉ prelude)
    (hclose : closingFrom? 0 inside = some n) :
    ∃ b : Block, t = b.text ++ inside.drop (n + 1) := by
  obtain ⟨body, rest, rfl, rfl, hbody⟩ := eq_of_closingFrom? hclose
  obtain ⟨lead, ht, htrivia⟩ := exists_trivia t
  obtain ⟨hlead, hplain⟩ := htrivia (by simp [hskip])
  rw [hskip] at ht hplain
  refine ⟨⟨lead, prelude, body, hlead, hplain.of_brace, hbrace, hbody⟩, ?_⟩
  rw [ht]
  simp [Block.text]

theorem not_mem_of_blank {c : Char} (h : isBlank c = true) {mark : Text}
    (hmark : mark.any isBlank = false) : c ∉ mark := by
  intro hc
  exact List.any_eq_false.1 hmark c hc h

theorem skipTrivia_concat {c : Char} (h : isBlank c = true) (t : Text) :
    skipTrivia (t ++ [c]) = if skipTrivia t = [] then [] else skipTrivia t ++ [c] := by
  have hopen : c ∉ commentOpen := not_mem_of_blank h (by decide)
  have hclose : c ∉ commentClose := not_mem_of_blank h (by decide)
  have htrim := Text.trimStart_concat h t
  induction hn : t.length using Nat.strongRecOn generalizing t with
  | ind n ih =>
    cases ho : Text.after? commentOpen (Text.trimStart t) with
    | none =>
      rw [skipTrivia_of_none ho]
      by_cases hnil : Text.trimStart t = []
      · rw [if_pos hnil] at htrim ⊢
        rw [skipTrivia_of_none (by rw [htrim]; rfl), htrim]
      · rw [if_neg hnil] at htrim ⊢
        rw [skipTrivia_of_none (by rw [htrim, Text.after?_guard hopen, ho]; rfl), htrim]
    | some inside =>
      have hne : Text.trimStart t ≠ [] := fun hnil => by simp [hnil, commentOpen, Text.after?] at ho
      rw [if_neg hne] at htrim
      have ho' : Text.after? commentOpen (Text.trimStart (t ++ [c])) = some (inside ++ [c]) := by
        rw [htrim, Text.after?_guard hopen, ho]
        rfl
      cases hcut : Text.cut? commentClose inside with
      | none =>
        rw [skipTrivia_of_open ho hcut, if_pos rfl]
        exact skipTrivia_of_open ho' (by rw [Text.cut?_guard hclose (by decide), hcut]; rfl)
      | some parts =>
        obtain ⟨comment, following⟩ := parts
        rw [skipTrivia_of_closed ho hcut, skipTrivia_of_closed ho'
          (by rw [Text.cut?_guard hclose (by decide), hcut]; rfl)]
        have h1 := Text.after?_length ho
        have h2 := Text.cut?_length hcut
        have h3 := Text.length_dropWhile_le isBlank t
        rw [← Text.trimStart] at h3
        have : commentOpen.length = 2 := rfl
        exact ih _ (by omega) following (Text.trimStart_concat h following) rfl

/-- A blank behind a text goes behind what is left after the first piece. -/
theorem nextPiece?_concat {c : Char} (h : isBlank c = true) (t : Text) :
    nextPiece? t = none ∧ nextPiece? (t ++ [c]) = none ∨
      ∃ piece rest, nextPiece? t = some (piece, rest) ∧
        (nextPiece? (t ++ [c]) = some (piece, rest ++ [c]) ∨
          rest = [] ∧ nextPiece? (t ++ [c]) = some (piece, [])) := by
  have hbrace : c ≠ '\x7b' := fun hc => by rw [hc] at h; exact absurd h (by decide)
  have hbrace' : c ≠ '\x7d' := fun hc => by rw [hc] at h; exact absurd h (by decide)
  have hskip := skipTrivia_concat h t
  by_cases hmem : '\x7b' ∈ skipTrivia t
  · obtain ⟨prelude, inside, hsplit, hprelude⟩ := List.eq_append_cons_of_mem hmem
    have hne : skipTrivia t ≠ [] := List.ne_nil_of_mem hmem
    have hsplit' : skipTrivia (t ++ [c]) = prelude ++ '\x7b' :: (inside ++ [c]) := by
      rw [hskip, if_neg hne, hsplit, List.append_assoc, List.cons_append]
    have hconcat := closingFrom?_concat hbrace hbrace' 0 inside
    cases hclose : closingFrom? 0 inside with
    | none =>
      rw [hclose] at hconcat
      refine Or.inr ⟨_, _, nextPiece?_of_open hsplit hprelude hclose, Or.inr ⟨rfl, ?_⟩⟩
      rw [nextPiece?_of_open hsplit' hprelude hconcat, hskip, if_neg hne, Text.collapse_concat h]
    | some n =>
      rw [hclose] at hconcat
      have hlt := closing?_lt_length hclose
      refine Or.inr ⟨_, _, nextPiece?_of_closed hsplit hprelude hclose, Or.inl ?_⟩
      rw [nextPiece?_of_closed hsplit' hprelude hconcat,
        List.take_append_of_le_length (Nat.le_of_lt hlt),
        List.drop_append_of_le_length (Nat.succ_le_of_lt hlt)]
  · refine Or.inl ⟨nextPiece?_of_no_brace hmem, nextPiece?_of_no_brace ?_⟩
    rw [hskip]
    split
    · exact List.not_mem_nil
    · simp [hmem, hbrace.symm]

theorem pieces_concat {c : Char} (h : isBlank c = true) (t : Text) : pieces (t ++ [c]) = pieces t := by
  induction hn : t.length using Nat.strongRecOn generalizing t with
  | ind n ih =>
    rcases nextPiece?_concat h t with ⟨h1, h2⟩ | ⟨piece, rest, h1, h2 | ⟨rfl, h2⟩⟩
    · rw [pieces_of_none h1, pieces_of_none h2]
    · rw [pieces_of_some h1, pieces_of_some h2, ih _ (hn ▸ nextPiece?_length h1) rest rfl]
    · rw [pieces_of_some h1, pieces_of_some h2]

/-- Blanks around a stylesheet do not matter. -/
theorem pieces_trim (t : Text) : pieces (Text.trim t) = pieces t := by
  have hend : ∀ w : Text, (∀ c ∈ w, isBlank c = true) → ∀ u, pieces (u ++ w) = pieces u := by
    intro w hw
    induction w with
    | nil => simp
    | cons c w ih =>
      intro u
      have hc := hw c List.mem_cons_self
      rw [List.append_cons, ih (fun d hd => hw d (List.mem_cons_of_mem _ hd)), pieces_concat hc]
  have hstart : pieces (Text.trimStart t) = pieces t :=
    pieces_congr (skipTrivia_congr (Text.trimStart_trimStart t))
  obtain ⟨w, hw, heq⟩ := Text.trimEnd_append_blanks (Text.trimStart t)
  rw [← hstart, Text.trim]
  conv_rhs => rw [heq]
  exact (hend w hw _).symm

end StyleSnapshot.Stylesheet
