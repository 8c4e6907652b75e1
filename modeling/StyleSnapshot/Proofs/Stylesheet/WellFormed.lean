import Mathlib.Tactic.MkIffOfInductiveProp
import StyleSnapshot.Proofs.Stylesheet.Blocks
import StyleSnapshot.Proofs.Text.Words

/-! What a stylesheet is made of.

Whatever a text says, balanced or not, what is read of it is `WellFormed`: selectors,
properties and values are trimmed and free of the marks that end them, no selector has two
rules, and what is kept as text is one line with single spaces. A piece has its part of this from
the text it is cut from (`wellFormed_ofBlock`), and adding a piece to a stylesheet keeps the
rest (`WellFormed.add`). -/
namespace StyleSnapshot

/-- A property and a value without blanks at their ends and without the marks that end them. -/
@[mk_iff]
structure Declaration.WellFormed (d : Declaration) : Prop where
  named : d.property ≠ []
  property_trim : Text.trim d.property = d.property
  property_flat : ':' ∉ d.property ∧ ';' ∉ d.property ∧ '\x7b' ∉ d.property ∧ '\x7d' ∉ d.property
  value_trim : Text.trim d.value = d.value
  value_flat : ';' ∉ d.value ∧ '\x7b' ∉ d.value ∧ '\x7d' ∉ d.value

/-- A plain selector with well-formed declarations. -/
@[mk_iff]
structure Rule.WellFormed (r : Rule) : Prop where
  named : r.selector ≠ []
  selector_trim : Text.trim r.selector = r.selector
  selector_flat : '\x7b' ∉ r.selector ∧ '\x7d' ∉ r.selector
  not_at : r.selector.head? ≠ some '@'
  declarations : ∀ d ∈ r.declarations, d.WellFormed

instance (d : Declaration) : Decidable d.WellFormed :=
  decidable_of_iff' _ (Declaration.wellFormed_iff d)

instance (r : Rule) : Decidable r.WellFormed := decidable_of_iff' _ (Rule.wellFormed_iff r)

namespace Stylesheet

/-- One well-formed rule for each selector, and opaque blocks on one line each. -/
structure WellFormed (s : Stylesheet) : Prop where
  distinct : (s.rules.map (·.selector)).Nodup
  rules : ∀ r ∈ s.rules, r.WellFormed
  unparsed : ∀ t ∈ s.unparsed, '\x7b' ∈ t ∧ Text.Spaced t

/-- A piece that a well-formed stylesheet can take in. -/
def Piece.WellFormed : Piece → Prop
  | .rule r => r.WellFormed
  | .unparsed t => '\x7b' ∈ t ∧ Text.Spaced t
  | .anonymous => True

/-! ### Declarations -/

theorem mem_of_mem_stripComments {c : Char} {t : Text} (h : c ∈ stripComments t) : c ∈ t := by
  fun_induction stripComments t with
  | case1 t hcut => exact h
  | case2 t before inside hcut hopen =>
    rw [Text.eq_of_cut? hcut]
    simp [h]
  | case3 t before inside hcut skipped following hclose ih =>
    rw [Text.eq_of_cut? hcut, Text.eq_of_cut? hclose]
    rcases List.mem_append.1 h with h | h
    · simp [h]
    · simp [ih h]

theorem wellFormed_declaration {entry : Text} {d : Declaration}
    (hflat : ';' ∉ entry ∧ '\x7b' ∉ entry ∧ '\x7d' ∉ entry) (h : declaration? entry = some d) :
    d.WellFormed := by
  simp only [declaration?] at h
  split at h
  · simp at h
  · next name value hcut =>
    obtain ⟨rfl, hcolon⟩ := Text.cut?_singleton_iff.1 hcut
    split at h
    · simp at h
    · next hne =>
      obtain rfl := Option.some.inj h
      have of_name {c : Char} (hc : c ∉ name ++ ':' :: value) : c ∉ Text.trim name := fun hmem =>
        hc (List.mem_append_left _ (Text.mem_of_mem_trim hmem))
      have of_value {c : Char} (hc : c ∉ name ++ ':' :: value) : c ∉ Text.trim value := fun hmem =>
        hc (List.mem_append_right _ (List.mem_cons_of_mem _ (Text.mem_of_mem_trim hmem)))
      obtain ⟨hsemi, hopen, hclose⟩ := hflat
      refine ⟨hne, Text.trim_trim name, ?_, Text.trim_trim value, ?_⟩
      · exact ⟨fun hmem => hcolon (Text.mem_of_mem_trim hmem), of_name hsemi, of_name hopen,
          of_name hclose⟩
      · exact ⟨of_value hsemi, of_value hopen, of_value hclose⟩

theorem wellFormed_declarations {body : Text} (hopen : '\x7b' ∉ body) (hclose : '\x7d' ∉ body) :
    ∀ d ∈ declarations body, d.WellFormed := by
  intro d hd
  obtain ⟨entry, hentry, hd⟩ := List.mem_filterMap.1 hd
  rw [List.splitOn_eq_splitOnP] at hentry
  have hpiece := Text.of_mem_splitOnP hentry
  have of_body {c : Char} (hc : c ∉ body) : c ∉ entry := fun hmem =>
    hc (mem_of_mem_stripComments (hpiece c hmem).1)
  have hsemi : ';' ∉ entry := fun hmem => by simpa using (hpiece _ hmem).2
  exact wellFormed_declaration ⟨hsemi, of_body hopen, of_body hclose⟩ hd

/-! ### Pieces -/

theorem not_mem_close_selectorOf (prelude : Text) : '\x7d' ∉ selectorOf prelude := by
  intro h
  have hmem := List.mem_reverse.1 (Text.mem_of_mem_trim h)
  simpa using List.mem_takeWhile_imp hmem

theorem wellFormed_ofBlock {prelude body : Text} (hprelude : '\x7b' ∉ prelude)
    (hbody : Balanced body) : (Piece.ofBlock prelude body).WellFormed := by
  unfold Piece.ofBlock
  by_cases hopaque : (selectorOf prelude).head? = some '@' ∨ '\x7b' ∈ body
  · rw [if_pos hopaque]
    exact ⟨Text.mem_collapse (by decide) (by simp), Text.spaced_collapse _⟩
  · rw [if_neg hopaque]
    obtain ⟨hat, hopen⟩ := not_or.1 hopaque
    by_cases hnil : selectorOf prelude = []
    · rw [if_pos hnil]
      trivial
    · rw [if_neg hnil]
      have hselector : '\x7b' ∉ selectorOf prelude := fun h => hprelude (mem_of_mem_selectorOf h)
      exact ⟨hnil, Text.trim_trim _, ⟨hselector, not_mem_close_selectorOf prelude⟩, hat,
        wellFormed_declarations hopen (hbody.not_mem_close hopen)⟩

theorem wellFormed_of_nextPiece? {t rest : Text} {piece : Piece}
    (h : nextPiece? t = some (piece, rest)) : piece.WellFormed := by
  rcases cases_of_nextPiece? h with ⟨prelude, body, -, hprelude, hbody, rfl⟩ | ⟨hmem, -, rfl⟩
  · exact wellFormed_ofBlock hprelude hbody
  · exact ⟨Text.mem_collapse (by decide) hmem, Text.spaced_collapse _⟩

theorem wellFormed_of_mem_pieces (t : Text) : ∀ piece ∈ pieces t, piece.WellFormed := by
  fun_induction pieces t with
  | case1 t h => simp
  | case2 t piece rest h ih =>
    intro p hp
    rcases List.mem_cons.1 hp with rfl | hp
    · exact wellFormed_of_nextPiece? h
    · exact ih p hp

/-! ### Stylesheets -/

theorem wellFormed_extend {policy : DuplicatePolicy} {r new : Rule} (h : r.WellFormed)
    (hnew : new.WellFormed) : (r.extend policy new.declarations).WellFormed := by
  cases policy with
  | merge =>
    refine { h with declarations := fun d hd => ?_ }
    rcases List.mem_append.1 hd with hd | hd
    · exact h.declarations d hd
    · exact hnew.declarations d hd
  | lastWins => exact { h with declarations := hnew.declarations }

theorem wellFormed_addRule {policy : DuplicatePolicy} {new : Rule} {rules : List Rule}
    (h : ∀ r ∈ rules, r.WellFormed) (hnew : new.WellFormed) :
    ∀ r ∈ addRule policy new rules, r.WellFormed := by
  induction rules with
  | nil => simpa [addRule] using hnew
  | cons first rest ih =>
    rw [List.forall_mem_cons] at h
    by_cases hs : first.selector = new.selector
    · simpa [addRule, hs] using ⟨wellFormed_extend h.1 hnew, h.2⟩
    · simpa [addRule, hs] using ⟨h.1, ih h.2⟩

theorem WellFormed.add {policy : DuplicatePolicy} {s : Stylesheet} {piece : Piece}
    (h : s.WellFormed) (hpiece : piece.WellFormed) : (add policy s piece).WellFormed := by
  refine ⟨nodup_add piece h.distinct, ?_, ?_⟩
  · cases piece with
    | rule r => exact wellFormed_addRule h.rules hpiece
    | unparsed t => exact h.rules
    | anonymous => exact h.rules
  · cases piece with
    | rule r => exact h.unparsed
    | unparsed t =>
      intro u hu
      rcases List.mem_append.1 hu with hu | hu
      · exact h.unparsed u hu
      · exact List.mem_singleton.1 hu ▸ hpiece
    | anonymous => exact h.unparsed

theorem WellFormed.foldl_add {policy : DuplicatePolicy} {s : Stylesheet} (h : s.WellFormed)
    {ps : List Piece} (hps : ∀ p ∈ ps, p.WellFormed) : (ps.foldl (Stylesheet.add policy) s).WellFormed := by
  induction ps generalizing s with
  | nil => exact h
  | cons p ps ih =>
    rw [List.forall_mem_cons] at hps
    exact ih (h.add hps.1) hps.2

/-- Reading any text gives a well-formed stylesheet, in which every rule is the one that its
selector leads to. -/
theorem wellFormed_parse (policy : DuplicatePolicy) (t : Text) :
    (parse policy t).WellFormed ∧
      ∀ r ∈ (parse policy t).rules, (parse policy t).rule? r.selector = some r := by
  have hempty : empty.WellFormed := ⟨List.nodup_nil, by simp [empty], by simp [empty]⟩
  have hparse : (parse policy t).WellFormed := hempty.foldl_add (wellFormed_of_mem_pieces t)
  exact ⟨hparse, fun r hr => (rule?_eq_some_iff hparse.distinct).2 ⟨hr, rfl⟩⟩

end Stylesheet
end StyleSnapshot
