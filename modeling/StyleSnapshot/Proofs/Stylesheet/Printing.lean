import StyleSnapshot.Proofs.Stylesheet.WellFormed

/-! Stylesheets in print.

A printed rule has one line, its selector in front of the braces and its declarations
between them, each ended by a semicolon. `parse_print` says that reading undoes printing: what
is well formed and holds nothing that would be read as a comment comes back as it was. -/
namespace StyleSnapshot

def Declaration.text (d : Declaration) : Text :=
  d.property ++ ": ".toList ++ d.value ++ "; ".toList

def Rule.text (r : Rule) : Text :=
  r.selector ++ " \x7b ".toList ++ r.declarations.flatMap Declaration.text ++ "\x7d\n".toList

namespace Stylesheet

/-- The text of some rules. -/
def print (rules : List Rule) : Text := rules.flatMap Rule.text

/-- A rule that holds nothing a reader would take for a comment. Within a selector a comment
is part of the selector. -/
structure Printable (r : Rule) : Prop extends r.WellFormed where
  not_comment : ¬ commentOpen <+: r.selector
  uncommented : ∀ d ∈ r.declarations,
    ¬ commentOpen <:+: d.property ∧ ¬ commentOpen <:+: d.value

/-! ### Bodies -/

/-- What stands between the braces of a printed rule. -/
def bodyOf (ds : List Declaration) : Text := ' ' :: ds.flatMap Declaration.text

theorem bodyOf_cons (d : Declaration) (ds : List Declaration) :
    bodyOf (d :: ds) = (' ' :: d.property ++ ':' :: ' ' :: d.value) ++ ';' :: bodyOf ds := by
  simp [bodyOf, Declaration.text]

theorem not_infix_bodyOf {ds : List Declaration}
    (h : ∀ d ∈ ds, ¬ commentOpen <:+: d.property ∧ ¬ commentOpen <:+: d.value) :
    ¬ commentOpen <:+: bodyOf ds := by
  induction ds with
  | nil => decide
  | cons d ds ih =>
    obtain ⟨⟨hproperty, hvalue⟩, hrest⟩ := List.forall_mem_cons.1 h
    have behind_space {t : Text} (ht : ¬ commentOpen <:+: t) : ¬ commentOpen <:+: ' ' :: t := by
      rw [← List.nil_append (' ' :: t), Text.infix_guard (by decide), not_or]
      exact ⟨by decide, ht⟩
    rw [bodyOf_cons, Text.infix_guard (by decide), Text.infix_guard (by decide), not_or, not_or]
    exact ⟨⟨behind_space hproperty, behind_space hvalue⟩, ih hrest⟩

theorem declaration?_entry {d : Declaration} (h : d.WellFormed) :
    declaration? (' ' :: d.property ++ ':' :: ' ' :: d.value) = some d := by
  have hcolon : ':' ∉ ' ' :: d.property := by
    simpa using h.property_flat.1
  have hcut : Text.cut? [':'] (' ' :: d.property ++ ':' :: ' ' :: d.value) =
      some (' ' :: d.property, ' ' :: d.value) := Text.cut?_singleton_iff.2 ⟨rfl, hcolon⟩
  have hspace : isBlank ' ' = true := by decide
  simp only [declaration?, hcut, Text.trim_blank_cons hspace, h.property_trim, h.value_trim, h.named,
    if_false]

theorem declarations_bodyOf {ds : List Declaration} (h : ∀ d ∈ ds, d.WellFormed)
    (hcomment : ∀ d ∈ ds, ¬ commentOpen <:+: d.property ∧ ¬ commentOpen <:+: d.value) :
    declarations (bodyOf ds) = ds := by
  rw [declarations, stripComments_of_not_infix (not_infix_bodyOf hcomment), List.splitOn_eq_splitOnP]
  clear hcomment
  induction ds with
  | nil => decide
  | cons d ds ih =>
    obtain ⟨hd, hrest⟩ := List.forall_mem_cons.1 h
    have hsemi : ';' ∉ ' ' :: d.property ++ ':' :: ' ' :: d.value := by
      simp [hd.property_flat.2.1, hd.value_flat.1]
    have hentry : ∀ c ∈ ' ' :: d.property ++ ':' :: ' ' :: d.value, (c == ';') = false :=
      fun c hc => beq_eq_false_iff_ne.2 fun he => hsemi (he ▸ hc)
    rw [bodyOf_cons, List.splitOnP_append_cons _ _ (by decide), List.splitOnP_eq_singleton hentry,
      List.filterMap_append, ih hrest]
    simp only [List.filterMap_cons, declaration?_entry hd, List.filterMap_nil, List.singleton_append]

theorem bodyOf_flat {ds : List Declaration} (h : ∀ d ∈ ds, d.WellFormed) :
    '\x7b' ∉ bodyOf ds ∧ '\x7d' ∉ bodyOf ds := by
  induction ds with
  | nil => simp [bodyOf]
  | cons d ds ih =>
    obtain ⟨hd, hrest⟩ := List.forall_mem_cons.1 h
    obtain ⟨-, -, hproperty⟩ := hd.property_flat
    obtain ⟨-, hvalue⟩ := hd.value_flat
    simp [bodyOf_cons, hproperty, hvalue, ih hrest]

/-! ### Rules -/

namespace Printable
variable {r : Rule} (h : Printable r)
include h

theorem prelude_flat : '\x7b' ∉ r.selector ++ [' '] ∧ '\x7d' ∉ r.selector ++ [' '] := by
  simp [h.selector_flat]

theorem selectorOf_prelude : selectorOf (r.selector ++ [' ']) = r.selector := by
  rw [selectorOf_of_not_mem h.prelude_flat.2, Text.trim_concat (by decide), h.selector_trim]

theorem ofBlock : Piece.ofBlock (r.selector ++ [' ']) (bodyOf r.declarations) = .rule r := by
  simp only [Piece.ofBlock, h.selectorOf_prelude, h.not_at, (bodyOf_flat h.declarations).1, h.named,
    or_self, if_false, declarations_bodyOf h.declarations h.uncommented]

theorem plain : Plain (r.selector ++ [' ']) where
  head c hc := by
    obtain ⟨first, rest, hselector⟩ := List.exists_cons_of_ne_nil h.named
    refine (Text.trim_eq_self_iff.1 h.selector_trim).1 c ?_
    rw [hselector] at hc ⊢
    exact hc
  comment := by
    have hnone : Text.after? commentOpen r.selector = none := by
      by_contra hne
      obtain ⟨rest, hrest⟩ := Option.ne_none_iff_exists'.1 hne
      exact h.not_comment ⟨rest, (Text.after?_eq_some_iff.1 hrest).symm⟩
    rw [Text.after?_guard (by decide), hnone]
    rfl

/-- A printed rule as a block. -/
def block : Block where
  lead := []
  prelude := r.selector ++ [' ']
  body := bodyOf r.declarations
  trivia := .nil
  plain := h.plain
  no_brace := h.prelude_flat.1
  balanced := depth?_of_not_mem (bodyOf_flat h.declarations).1 (bodyOf_flat h.declarations).2 0

end Printable

theorem pieces_text {r : Rule} (h : Printable r) (t : Text) :
    pieces (r.text ++ t) = .rule r :: pieces t := by
  have htext : r.text ++ t = h.block.text ++ (['\n'] ++ t) := by
    simp [Rule.text, Block.text, Printable.block, bodyOf]
  rw [htext, pieces_block, pieces_blanks (List.forall_mem_singleton.2 (by decide))]
  exact congrArg (· :: pieces t) h.ofBlock

theorem pieces_print {rules : List Rule} (h : ∀ r ∈ rules, Printable r) :
    pieces (print rules) = rules.map .rule := by
  induction rules with
  | nil => exact pieces_nil
  | cons r rules ih =>
    rw [List.forall_mem_cons] at h
    show pieces (r.text ++ print rules) = _
    rw [pieces_text h.1, ih h.2, List.map_cons]

/-- Reading undoes printing. -/
theorem parse_print {rules : List Rule} (hdistinct : (rules.map (·.selector)).Nodup)
    (h : ∀ r ∈ rules, Printable r) (policy : DuplicatePolicy) :
    parse policy (print rules) = ⟨rules, []⟩ := by
  have hblocks : ruleBlocks (print rules) = rules := by
    rw [ruleBlocks, pieces_print h, List.filterMap_map]
    exact List.filterMap_some
  have hopaque : (pieces (print rules)).filterMap Piece.unparsed? = [] := by
    rw [pieces_print h, List.filterMap_map]
    simp [Piece.unparsed?]
  rw [parse_eq_of_nodup (by rwa [hblocks]), hblocks, hopaque]

/-- A comment in a selector, a value with a colon and one without any text, a property that
is declared twice, and a rule without declarations. -/
def redeclared : List Rule :=
  [⟨"a /*b*/ c".toList, [⟨"--u".toList, "url(data:*/)".toList⟩, ⟨"m".toList, []⟩,
    ⟨"--u".toList, "/ *".toList⟩]⟩, ⟨".d".toList, []⟩]

theorem parse_print_redeclared : (redeclared.map (·.selector)).Nodup ∧
    (∀ r ∈ redeclared, Printable r) ∧ parse .lastWins (print redeclared) = ⟨redeclared, []⟩ := by
  have hdistinct : (redeclared.map (·.selector)).Nodup := by decide
  have hformed : ∀ r ∈ redeclared, r.WellFormed := by decide +kernel
  have hcomment : ∀ r ∈ redeclared, ¬ commentOpen <+: r.selector ∧ ∀ d ∈ r.declarations,
      ¬ commentOpen <:+: d.property ∧ ¬ commentOpen <:+: d.value := by decide +kernel
  have hprintable : ∀ r ∈ redeclared, Printable r := fun r hr =>
    ⟨hformed r hr, (hcomment r hr).1, (hcomment r hr).2⟩
  exact ⟨hdistinct, hprintable, parse_print hdistinct hprintable .lastWins⟩

end Stylesheet
end StyleSnapshot
