import StyleSnapshot.Proofs.Snapshot.References

/-! What is taken out of a snapshot.

A `ReferenceBlock` is one of the four keywords, a prelude and a balanced body between
braces. `afterReference?_eq_some_iff` says that the search recognizes these and nothing
else, and that the blanks behind one go with it. So a text falls into blocks that are
dropped and characters that are kept because no block begins there, and what is left is
exactly the characters that are kept, in their order (`stripReferences_fragments`). -/
namespace StyleSnapshot.Snapshot

/-! ### Keywords as they are written -/

/-- Spaces and tabs. -/
def Indentation (w : Text) : Prop := ∀ c ∈ w, c = ' ' ∨ c = '\t'

-- Named, because a search through all characters would be an instance as well.
instance (w : Text) : Decidable (Indentation w) := List.decidableBAll _ w

/-- The ways to write a keyword. Blanks of any kind may stand inside that of a layer, and
the indentation of a root selector belongs to it. -/
inductive Written : Keyword → Text → Prop
  | layer {w : Text} : w ≠ [] → (∀ c ∈ w, isBlank c = true) →
      Written .layer ("@layer".toList ++ w ++ "properties".toList)
  | property : Written .property "@property".toList
  | supports : Written .supports "@supports".toList
  | root {w : Text} : Indentation w → Written .root (w ++ ":root".toList)

theorem afterWord?_eq_some_iff {lead t rest : Text} :
    afterWord? lead t = some rest ↔ t = lead ++ rest ∧ atWordEnd rest = true := by
  rw [afterWord?, Option.filter_eq_some_iff, Text.after?_eq_some_iff]

theorem afterLayer?_eq_some_iff {t rest : Text} :
    afterLayer? t = some rest ↔
      ∃ opening, Written .layer opening ∧ t = opening ++ rest ∧ atWordEnd rest = true := by
  constructor
  · intro h
    simp only [afterLayer?] at h
    split at h
    · next c inside hlayer =>
      split at h
      · next hc =>
        obtain ⟨hinside, hend⟩ := afterWord?_eq_some_iff.1 h
        refine ⟨_, .layer (List.cons_ne_nil c (inside.takeWhile isBlank)) ?_, ?_, hend⟩
        · intro d hd
          rcases List.mem_cons.1 hd with rfl | hd
          · exact hc
          · exact List.mem_takeWhile_imp hd
        · rw [Text.after?_eq_some_iff.1 hlayer, List.append_assoc, List.append_assoc, ← hinside,
            List.cons_append, Text.trimStart, List.takeWhile_append_dropWhile]
      · simp at h
    · simp at h
  · rintro ⟨_, @⟨w, hne, hw⟩, rfl, hend⟩
    obtain ⟨c, w, rfl⟩ := List.exists_cons_of_ne_nil hne
    have hc := hw c List.mem_cons_self
    have htrim : Text.trimStart (w ++ ("properties".toList ++ rest)) = "properties".toList ++ rest := by
      rw [Text.trimStart_append fun d hd => hw d (List.mem_cons_of_mem c hd)]
      exact Text.trimStart_cons_of_not_blank (by decide) _
    simp only [afterLayer?, List.append_assoc, Text.after?_self, List.cons_append, hc, if_true, htrim]
    exact afterWord?_eq_some_iff.2 ⟨rfl, hend⟩

theorem afterRoot?_eq_some_iff {before : Option Char} {t rest : Text} :
    afterRoot? before t = some rest ↔ atLineStart before = true ∧
      ∃ opening, Written .root opening ∧ t = opening ++ rest ∧ atWordEnd rest = true := by
  constructor
  · intro h
    simp only [afterRoot?] at h
    split at h
    · next hline =>
      obtain ⟨hroot, hend⟩ := afterWord?_eq_some_iff.1 h
      refine ⟨hline, _, .root (w := t.takeWhile fun c => c = ' ' || c = '\t') fun c hc => ?_, ?_, hend⟩
      · simpa using List.mem_takeWhile_imp hc
      · rw [List.append_assoc, ← hroot, List.takeWhile_append_dropWhile]
    · simp at h
  · rintro ⟨hline, _, @⟨⟩ | @⟨⟩ | @⟨⟩ | @⟨w, hw⟩, rfl, hend⟩
    have hdrop : (w ++ ":root".toList ++ rest).dropWhile (fun c => c = ' ' || c = '\t') =
        ":root".toList ++ rest := by
      rw [List.append_assoc, List.dropWhile_append_of_pos fun c hc => by simpa using hw c hc]
      rfl
    simp only [afterRoot?, hline, if_true, hdrop]
    exact afterWord?_eq_some_iff.2 ⟨rfl, hend⟩

/-- No other keyword begins like a root selector. -/
theorem after?_of_root {w : Text} (h : Indentation w) (lead rest : Text) :
    Text.after? ('@' :: lead) (w ++ ":root".toList ++ rest) = none := by
  cases w with
  | nil => rfl
  | cons c w => rcases h c List.mem_cons_self with rfl | rfl <;> rfl

/-- A keyword is found where it is written, where a word ends behind it, and a root selector
only at the beginning of a line. -/
theorem keyword?_eq_some_iff {before : Option Char} {t rest : Text} {keyword : Keyword} :
    keyword? before t = some (keyword, rest) ↔
      (keyword = .root → atLineStart before = true) ∧
        ∃ opening, Written keyword opening ∧ t = opening ++ rest ∧ atWordEnd rest = true := by
  constructor
  · intro h
    simp only [keyword?, Option.orElse_eq_orElse, Option.orElse_eq_or, Option.or_eq_some_iff,
      Option.map_eq_some_iff, Prod.mk.injEq] at h
    rcases h with ⟨r, hr, rfl, rfl⟩ | ⟨-, ⟨r, hr, rfl, rfl⟩ | ⟨-, ⟨r, hr, rfl, rfl⟩ | ⟨-, r, hr, rfl, rfl⟩⟩⟩
    · exact ⟨fun h => absurd h (by decide), afterLayer?_eq_some_iff.1 hr⟩
    · exact ⟨fun h => absurd h (by decide), _, .property, afterWord?_eq_some_iff.1 hr⟩
    · exact ⟨fun h => absurd h (by decide), _, .supports, afterWord?_eq_some_iff.1 hr⟩
    · obtain ⟨hline, hroot⟩ := afterRoot?_eq_some_iff.1 hr
      exact ⟨fun _ => hline, hroot⟩
  · rintro ⟨hline, opening, hw, rfl, hend⟩
    cases hw with
    | layer hne hblank =>
      rw [keyword?, afterLayer?_eq_some_iff.2 ⟨_, .layer hne hblank, rfl, hend⟩]
      rfl
    | property =>
      have hlayer : afterLayer? ("@property".toList ++ rest) = none := rfl
      rw [keyword?, hlayer, afterWord?_eq_some_iff.2 ⟨rfl, hend⟩]
      rfl
    | supports =>
      have hlayer : afterLayer? ("@supports".toList ++ rest) = none := rfl
      have hproperty : afterWord? "@property".toList ("@supports".toList ++ rest) = none := rfl
      rw [keyword?, hlayer, hproperty, afterWord?_eq_some_iff.2 ⟨rfl, hend⟩]
      rfl
    | @root w hindent =>
      have hat (lead : Text) : Text.after? ('@' :: lead) (w ++ ":root".toList ++ rest) = none :=
        after?_of_root hindent lead rest
      have hlayer : afterLayer? (w ++ ":root".toList ++ rest) = none := by
        rw [afterLayer?, show "@layer".toList = '@' :: "layer".toList from rfl, hat]
      have hword (lead : Text) : afterWord? ('@' :: lead) (w ++ ":root".toList ++ rest) = none := by
        rw [afterWord?, hat]
        rfl
      have hroot := afterRoot?_eq_some_iff.2 ⟨hline rfl, _, .root hindent, rfl, hend⟩
      rw [keyword?, hlayer, show "@property".toList = '@' :: "property".toList from rfl, hword,
        show "@supports".toList = '@' :: "supports".toList from rfl, hword, hroot]
      rfl

theorem keyword?_eq_none_iff {before : Option Char} {t : Text} :
    keyword? before t = none ↔ ∀ keyword opening rest,
      (keyword = .root → atLineStart before = true) → Written keyword opening →
        t = opening ++ rest → atWordEnd rest = false := by
  constructor
  · intro h keyword opening rest hline hwritten heq
    rw [← Bool.not_eq_true]
    intro hend
    have hsome := keyword?_eq_some_iff.2 ⟨hline, opening, hwritten, heq, hend⟩
    exact Option.some_ne_none _ (hsome.symm.trans h)
  · intro h
    cases hfound : keyword? before t with
    | none => rfl
    | some found =>
      obtain ⟨keyword, rest⟩ := found
      obtain ⟨hline, opening, hwritten, heq, hend⟩ := keyword?_eq_some_iff.1 hfound
      exact absurd (h keyword opening rest hline hwritten heq) (by simp [hend])

/-- A keyword holds no brace. -/
theorem Written.plain {keyword : Keyword} {opening : Text} (h : Written keyword opening) :
    '\x7b' ∉ opening ∧ '\x7d' ∉ opening := by
  cases h with
  | layer _ hw =>
    have ho : '\x7b' ∉ _ := fun hmem => absurd (hw _ hmem) (by decide)
    have hc : '\x7d' ∉ _ := fun hmem => absurd (hw _ hmem) (by decide)
    simp [ho, hc]
  | property => decide
  | supports => decide
  | root hw =>
    have ho : '\x7b' ∉ _ := fun hmem => absurd (hw _ hmem) (by decide)
    have hc : '\x7d' ∉ _ := fun hmem => absurd (hw _ hmem) (by decide)
    simp [ho, hc]

/-! ### Reference blocks -/

theorem isPrelude_iff {keyword : Keyword} {prelude : Text} : isPrelude keyword prelude = true ↔
    ';' ∉ prelude ∧ '\x7d' ∉ prelude ∧
      (keyword = .supports → ∃ probe ∈ capabilityProbes, probe <:+: prelude) := by
  simp only [isPrelude, Bool.and_eq_true, Bool.not_eq_true', List.contains_eq_mem, decide_eq_false_iff_not,
    Bool.or_eq_true, bne_iff_ne, List.any_eq_true, Text.mentions_iff, and_assoc, ne_eq,
    Decidable.imp_iff_not_or]

/-- A block that only sets up the environment of a stylesheet. -/
structure ReferenceBlock where
  keyword : Keyword
  /-- The keyword as it is written. -/
  opening : Text
  prelude : Text
  body : Text
  written : Written keyword opening
  word_end : atWordEnd prelude = true
  plain : ';' ∉ prelude ∧ '\x7b' ∉ prelude ∧ '\x7d' ∉ prelude
  /-- A condition counts only if it probes an engine. -/
  probes : keyword = .supports → ∃ probe ∈ capabilityProbes, probe <:+: prelude
  balanced : Balanced body

namespace ReferenceBlock

def text (b : ReferenceBlock) : Text := b.opening ++ b.prelude ++ '\x7b' :: b.body ++ ['\x7d']

/-- Whether the block is recognized behind a character: a root selector has to stand at the
beginning of a line. -/
def MayFollow (before : Option Char) (b : ReferenceBlock) : Prop :=
  b.keyword = .root → atLineStart before = true

theorem text_append (b : ReferenceBlock) (rest : Text) :
    b.text ++ rest = b.opening ++ b.prelude ++ '\x7b' :: b.body ++ '\x7d' :: rest := by
  simp [text]

theorem balanced_text (b : ReferenceBlock) : Balanced b.text := by
  have hopening : depth? 0 b.opening = some 0 :=
    depth?_of_not_mem b.written.plain.1 b.written.plain.2 0
  have hprelude : depth? 0 b.prelude = some 0 := depth?_of_not_mem b.plain.2.1 b.plain.2.2 0
  have hblock : depth? 0 ('\x7b' :: b.body ++ ['\x7d']) = some 0 := by
    show depth? 1 (b.body ++ ['\x7d']) = some 0
    rw [depth?_append, b.balanced.depth? 1]
    rfl
  rw [Balanced, text, List.append_assoc, depth?_append, depth?_append, hopening, Option.bind_some,
    hprelude, Option.bind_some, hblock]

theorem opensReference (b : ReferenceBlock) {before : Option Char} (h : b.MayFollow before) :
    opensReference before (b.opening ++ b.prelude) = true := by
  have hkeyword := keyword?_eq_some_iff.2 ⟨h, b.opening, b.written, rfl, b.word_end⟩
  rw [Snapshot.opensReference, hkeyword]
  exact isPrelude_iff.2 ⟨b.plain.1, b.plain.2.2, b.probes⟩

end ReferenceBlock

/-- Reference blocks are recognized, and nothing else; the blanks behind one go with it. -/
theorem afterReference?_eq_some_iff {before : Option Char} {t following : Text} :
    afterReference? before t = some following ↔
      ∃ (b : ReferenceBlock) (rest : Text), b.MayFollow before ∧ t = b.text ++ rest ∧
        following = rest.dropWhile isAsciiBlank := by
  constructor
  · intro h
    obtain ⟨front, body, w, rfl, hbrace, hopens, hbody, hw⟩ := eq_of_afterReference? h
    cases hk : keyword? before front with
    | none => simp [opensReference, hk] at hopens
    | some found =>
      obtain ⟨keyword, prelude⟩ := found
      obtain ⟨hline, opening, hwritten, rfl, hend⟩ := keyword?_eq_some_iff.1 hk
      rw [opensReference, hk] at hopens
      obtain ⟨hsemicolon, hclose, hprobes⟩ := isPrelude_iff.1 hopens
      have hopen : '\x7b' ∉ prelude := fun hmem => hbrace (List.mem_append_right _ hmem)
      let b : ReferenceBlock := ⟨keyword, opening, prelude, body, hwritten, hend,
        ⟨hsemicolon, hopen, hclose⟩, hprobes, hbody⟩
      refine ⟨b, w ++ following, hline, (b.text_append _).symm, ?_⟩
      have hnext : afterReference? before (b.text ++ (w ++ following)) = some following := by
        rw [b.text_append]
        exact h
      rw [b.text_append, afterReference?_block hbrace hbody, if_pos (b.opensReference hline)] at hnext
      exact (Option.some.inj hnext).symm
  · rintro ⟨b, rest, hfollow, rfl, rfl⟩
    have hbrace : '\x7b' ∉ b.opening ++ b.prelude := by
      rw [List.mem_append, not_or]
      exact ⟨b.written.plain.1, b.plain.2.1⟩
    rw [b.text_append, afterReference?_block hbrace b.balanced, if_pos (b.opensReference hfollow)]

theorem afterReference?_eq_none_iff {before : Option Char} {t : Text} :
    afterReference? before t = none ↔ ∀ b : ReferenceBlock, b.MayFollow before → ¬ b.text <+: t := by
  constructor
  · rintro h b hfollow ⟨rest, rfl⟩
    have hsome := afterReference?_eq_some_iff.2 ⟨b, rest, hfollow, rfl, rfl⟩
    exact Option.some_ne_none _ (hsome.symm.trans h)
  · intro h
    refine Option.eq_none_iff_forall_ne_some.2 fun following hsome => ?_
    obtain ⟨b, rest, hfollow, rfl, -⟩ := afterReference?_eq_some_iff.1 hsome
    exact h b hfollow (List.prefix_append _ _)

/-! ### Cutting a text -/

/-- A part of a text: a character that stays, or a reference block and the blanks behind it. -/
inductive Fragment where
  | kept (c : Char)
  | dropped (b : ReferenceBlock) (blanks : Text)

namespace Fragment

def text : Fragment → Text
  | kept c => [c]
  | dropped b blanks => b.text ++ blanks

/-- What is left of a part. -/
def remains : Fragment → Text
  | kept c => [c]
  | dropped _ _ => []

/-- The text that some parts make up. -/
def textOf (fragments : List Fragment) : Text := fragments.flatMap text

/-- What is left of it. -/
def remainsOf (fragments : List Fragment) : Text := fragments.flatMap remains

/-- How a text is cut into parts, `before` being the last character that was kept in front of
it. A character stays if no reference block begins with it. A block goes with all the blanks
behind it and with nothing else. -/
def Cut : Option Char → List Fragment → Prop
  | _, [] => True
  | before, kept c :: more =>
    (∀ b : ReferenceBlock, b.MayFollow before → ¬ b.text <+: c :: textOf more) ∧ Cut (some c) more
  | before, dropped b blanks :: more =>
    b.MayFollow before ∧ (∀ c ∈ blanks, isAsciiBlank c = true) ∧
      (∀ c, (textOf more).head? = some c → isAsciiBlank c = false) ∧ Cut before more

theorem exists_cut (before : Option Char) (t : Text) :
    ∃ fragments, textOf fragments = t ∧ remainsOf fragments = stripReferences before t ∧
      Cut before fragments := by
  fun_induction stripReferences before t with
  | case1 before => exact ⟨[], rfl, rfl, trivial⟩
  | case2 before c t following hsome ih =>
    obtain ⟨b, rest, hfollow, heq, rfl⟩ := afterReference?_eq_some_iff.1 hsome
    obtain ⟨fragments, htext, hrest, hcut⟩ := ih
    refine ⟨dropped b (rest.takeWhile isAsciiBlank) :: fragments, ?_, hrest, hfollow,
      fun _ => List.mem_takeWhile_imp, fun c hc => ?_, hcut⟩
    · rw [textOf, List.flatMap_cons, ← textOf, htext, text, List.append_assoc,
        List.takeWhile_append_dropWhile, heq]
    · rw [htext] at hc
      have := List.head?_dropWhile_not isAsciiBlank rest
      rw [hc] at this
      exact this
  | case3 before c t hnone ih =>
    obtain ⟨fragments, htext, hrest, hcut⟩ := ih
    refine ⟨kept c :: fragments, congrArg (c :: ·) htext, congrArg (c :: ·) hrest, ?_, hcut⟩
    rw [htext]
    exact afterReference?_eq_none_iff.1 hnone

/-- Blocks and blanks leave the count of braces as it was. -/
theorem braceBalance_remainsOf {before : Option Char} {fragments : List Fragment}
    (h : Cut before fragments) :
    braceBalance (remainsOf fragments) = braceBalance (textOf fragments) := by
  induction fragments generalizing before with
  | nil => rfl
  | cons fragment more ih =>
    rw [remainsOf, textOf, List.flatMap_cons, List.flatMap_cons, ← remainsOf, ← textOf,
      braceBalance_append, braceBalance_append]
    cases fragment with
    | kept c =>
      rw [ih h.2]
      rfl
    | dropped b blanks =>
      obtain ⟨-, hblanks, -, hmore⟩ := h
      have hblock : depth? 0 (b.text ++ blanks) = some 0 := by
        rw [depth?_append, b.balanced_text, Option.bind_some]
        exact depth?_of_not_mem (not_brace_of_isAsciiBlank hblanks).1
          (not_brace_of_isAsciiBlank hblanks).2 0
      have hzero : braceBalance (b.text ++ blanks) = 0 := by
        have := eq_of_depth? hblock
        omega
      rw [ih hmore, text, hzero]
      rfl

end Fragment

/-- Text in which no keyword begins stays. -/
theorem stripReferences_no_keyword {before : Option Char} {t rest : Text}
    (h : Text.Clear keyword? before t rest) :
    stripReferences before (t ++ rest) = t ++ stripReferences (Text.endOf before t) rest := by
  refine stripReferences_clear (h.mono fun before x hnone => ?_)
  rw [afterReference?, hnone, Option.bind_none]

theorem stripReferences_of_no_keyword {before : Option Char} {t : Text}
    (h : Text.Clear keyword? before t []) : stripReferences before t = t := by
  have hstrip := stripReferences_no_keyword h
  rwa [stripReferences_nil, List.append_nil] at hstrip

/-- **Only whole reference blocks are taken out**, each with the blanks behind it, and all
else stays in its order. The braces of what is left balance as those of the text do, and a
text without a keyword stays as it is. -/
theorem stripReferences_fragments (t : Text) :
    (∃ fragments, Fragment.textOf fragments = t ∧
      Fragment.remainsOf fragments = stripReferences none t ∧ Fragment.Cut none fragments) ∧
    braceBalance (stripReferences none t) = braceBalance t ∧
    (Text.Clear keyword? none t [] → stripReferences none t = t) := by
  obtain ⟨fragments, htext, hremains, hcut⟩ := Fragment.exists_cut none t
  refine ⟨⟨fragments, htext, hremains, hcut⟩, ?_, stripReferences_of_no_keyword⟩
  rw [← hremains, ← htext]
  exact Fragment.braceBalance_remainsOf hcut

/-- Words that begin like a keyword, and a root selector that does not begin its line. -/
theorem stripReferences_fragments_near :
    let t := "@property_x \x7b\x7d @propertyé \x7b\x7d\n.a :root \x7b transition-property: x \x7d".toList
    Text.Clear keyword? none t [] ∧ stripReferences none t = t := by
  intro t
  have h : Text.Clear keyword? none t [] := by decide +kernel
  exact ⟨h, (stripReferences_fragments t).2.2 h⟩

end StyleSnapshot.Snapshot
