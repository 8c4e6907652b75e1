import StyleSnapshot.Fixture.Block
import StyleSnapshot.Proofs.Text.Parts

/-! The lines that begin and end a test block, as they are written.

A line declares a test just when it is one of the ways to write that (`Declaration`), and it can
end a block just when the mark that closes one stands at its beginning or at its end
(`closesBlock_iff`, `closesItself_iff`). -/
namespace StyleSnapshot.Fixture

/-! ### Declarations -/

def IsQuote (q : Char) : Prop := q = '\'' ∨ q = '"' ∨ q = '\x60'

/-- The ways to write a line that declares the test with a name. Blanks may stand in front of the
call and on either side of the quoted name. -/
inductive Declaration (name : Text) : Text → Prop
  | mk {indent declarator w w' body : Text} {modified : List Text} {q : Char} :
      (∀ c ∈ indent, isBlank c = true) → declarator ∈ declarators →
      (∀ m ∈ modified, m ∈ modifiers) → (∀ c ∈ w, isBlank c = true) → IsQuote q → q ∉ name →
      (∀ c ∈ w', isBlank c = true) → '\x7b' ∈ body →
      Declaration name (indent ++ (declarator ++ (modified.flatten ++
        '(' :: (w ++ q :: (name ++ q :: (w' ++ ',' :: body))))))

theorem findSome?_declarators {declarator : Text} (h : declarator ∈ declarators) (x : Text) :
    declarators.findSome? (Text.after? · (declarator ++ x)) = some x := by
  simp only [declarators, List.mem_cons, List.not_mem_nil, or_false] at h
  rcases h with rfl | rfl <;> rfl

/-- No declarator begins with a blank. -/
theorem trimStart_declarator {declarator : Text} (h : declarator ∈ declarators) (x : Text) :
    Text.trimStart (declarator ++ x) = declarator ++ x := by
  simp only [declarators, List.mem_cons, List.not_mem_nil, or_false] at h
  rcases h with rfl | rfl <;> exact Text.trimStart_cons_of_not_blank (by decide) _

theorem afterModifier?_append {m : Text} (h : m ∈ modifiers) (x : Text) :
    afterModifier? (m ++ x) = some x := by
  simp only [modifiers, List.mem_cons, List.not_mem_nil, or_false] at h
  rcases h with rfl | rfl | rfl | rfl <;> rfl

theorem afterModifiers_of_some {t rest : Text} (h : afterModifier? t = some rest) :
    afterModifiers t = afterModifiers rest := by
  rw [afterModifiers]
  split
  · next rest' h' => rw [Option.some.inj (h.symm.trans h')]
  · next h' => exact absurd (h.symm.trans h') (Option.some_ne_none rest)

theorem afterModifiers_of_none {t : Text} (h : afterModifier? t = none) : afterModifiers t = t := by
  rw [afterModifiers]
  split
  · next h' => exact absurd (h.symm.trans h') (Option.some_ne_none _).symm
  · rfl

theorem afterModifiers_append {modified : List Text} (h : ∀ m ∈ modified, m ∈ modifiers)
    (x : Text) : afterModifiers (modified.flatten ++ x) = afterModifiers x := by
  induction modified with
  | nil => rfl
  | cons m modified ih =>
    have hm := afterModifier?_append (h m List.mem_cons_self) (modified.flatten ++ x)
    rw [List.flatten_cons, List.append_assoc, afterModifiers_of_some hm]
    exact ih fun m' hm' => h m' (List.mem_cons_of_mem m hm')

/-- Only modifiers are passed over. -/
theorem exists_modified (t : Text) :
    ∃ modified : List Text, (∀ m ∈ modified, m ∈ modifiers) ∧
      t = modified.flatten ++ afterModifiers t := by
  induction t using afterModifiers.induct with
  | case1 t rest h ih =>
    obtain ⟨modified, hmodified, heq⟩ := ih
    obtain ⟨m, hm, hafter⟩ := List.exists_of_findSome?_eq_some h
    refine ⟨m :: modified, List.forall_mem_cons.2 ⟨hm, hmodified⟩, ?_⟩
    rw [afterModifiers_of_some h, List.flatten_cons, List.append_assoc, ← heq]
    exact Text.after?_eq_some_iff.1 hafter
  | case2 t h => exact ⟨[], List.forall_mem_nil _, (afterModifiers_of_none h).symm⟩

/-- The quoted name ends at the first quote like the one in front of it. -/
theorem quotedName?_eq_some_iff {t name rest : Text} : quotedName? t = some (name, rest) ↔
    ∃ q, IsQuote q ∧ q ∉ name ∧ t = q :: (name ++ q :: rest) := by
  constructor
  · intro h
    unfold quotedName? at h
    split at h
    · cases h
    · next q inside =>
      split at h
      · next hq =>
        split at h
        · cases h
        · next d following hdrop =>
          obtain ⟨rfl, rfl⟩ := Prod.mk.inj (Option.some.inj h)
          have hd : d = q := by
            have hhead := List.head?_dropWhile_not (fun c => decide (c ≠ q)) inside
            rw [hdrop] at hhead
            simpa using hhead
          subst hd
          refine ⟨d, by simpa [IsQuote, or_assoc] using hq, fun hmem => ?_, ?_⟩
          · simpa using List.mem_takeWhile_imp hmem
          · rw [← hdrop, List.takeWhile_append_dropWhile]
      · cases h
  · intro h
    obtain ⟨q, hq, hname, rfl⟩ := h
    have hplain : ∀ c ∈ name, decide (c ≠ q) = true := fun c hc =>
      decide_eq_true fun heq => hname (heq ▸ hc)
    have hstop : decide (q ≠ q) = false := decide_eq_false fun h => h rfl
    have hquote : (decide (q = '\'') || decide (q = '"') || decide (q = '\x60')) = true := by
      simpa [IsQuote, or_assoc] using hq
    rw [quotedName?, if_pos hquote, Text.dropWhile_run hstop hplain,
      Text.takeWhile_run hstop hplain]

theorem IsQuote.not_blank {q : Char} (h : IsQuote q) : isBlank q = false := by
  rcases h with rfl | rfl | rfl <;> decide

/-- A test is declared where its declaration is written, and nowhere else. -/
theorem declaredName?_eq_some_iff {line name : Text} :
    declaredName? line = some name ↔ Declaration name line := by
  simp only [declaredName?, Option.bind_eq_bind, Option.bind_eq_some_iff]
  constructor
  · intro h
    obtain ⟨call, hcall, arguments, harguments, ⟨name', following⟩, hquoted, body, hbody, hopen⟩ := h
    obtain ⟨indent, hindent, hline⟩ := Text.exists_blanks_trimStart line
    obtain ⟨declarator, hdeclarator, hafter⟩ := List.exists_of_findSome?_eq_some hcall
    obtain ⟨modified, hmodified, hcallEq⟩ := exists_modified call
    obtain ⟨w, hw, hargumentsEq⟩ := Text.exists_blanks_trimStart arguments
    obtain ⟨q, hq, hname, hquotedEq⟩ := quotedName?_eq_some_iff.1 hquoted
    obtain ⟨w', hw', hfollowing⟩ := Text.exists_blanks_trimStart following
    split at hopen
    · next hbrace =>
      obtain rfl := Option.some.inj hopen
      rw [hline, Text.after?_eq_some_iff.1 hafter, hcallEq, Text.after?_eq_some_iff.1 harguments,
        hargumentsEq, hquotedEq, hfollowing, Text.after?_eq_some_iff.1 hbody]
      exact .mk hindent hdeclarator hmodified hw hq hname hw' hbrace
    · cases hopen
  · intro h
    obtain @⟨indent, declarator, w, w', body, modified, q, hindent, hdeclarator, hmodified, hw, hq,
      hname, hw', hbrace⟩ := h
    let arguments := w ++ q :: (name ++ q :: (w' ++ ',' :: body))
    refine ⟨modified.flatten ++ '(' :: arguments, ?_, arguments, ?_, (name, w' ++ ',' :: body), ?_,
      body, ?_, if_pos hbrace⟩
    · rw [Text.trimStart_append hindent, trimStart_declarator hdeclarator]
      exact findSome?_declarators hdeclarator _
    · rw [afterModifiers_append hmodified, afterModifiers_of_none rfl]
      rfl
    · rw [Text.trimStart_append hw, Text.trimStart_cons_of_not_blank hq.not_blank]
      exact quotedName?_eq_some_iff.2 ⟨q, hq, hname, rfl⟩
    · rw [Text.trimStart_append hw', Text.trimStart_cons_of_not_blank (by decide)]
      rfl

theorem declaredName?_eq_none_iff {line : Text} :
    declaredName? line = none ↔ ∀ name, ¬ Declaration name line := by
  simp only [Option.eq_none_iff_forall_ne_some, ne_eq, declaredName?_eq_some_iff]

/-! ### Lines that end a block -/

theorem blockClose_not_blank : ∀ c ∈ blockClose, isBlank c = false := by decide

/-- The mark is the first thing on the line. -/
theorem closesBlock_iff {line : Text} : closesBlock line = true ↔
    ∃ w rest, (∀ c ∈ w, isBlank c = true) ∧ line = w ++ (blockClose ++ rest) := by
  rw [closesBlock, Text.startsWith, Option.isSome_iff_exists]
  constructor
  · intro h
    obtain ⟨rest, hrest⟩ := h
    obtain ⟨w, hw, hline⟩ := Text.exists_blanks_trimStart line
    obtain ⟨w', -, htrim⟩ := Text.trimEnd_append_blanks (Text.trimStart line)
    refine ⟨w, rest ++ w', hw, ?_⟩
    rw [← List.append_assoc blockClose, ← Text.after?_eq_some_iff.1 hrest]
    exact hline.trans (congrArg (w ++ ·) htrim)
  · intro h
    obtain ⟨w, rest, hw, rfl⟩ := h
    obtain ⟨more, hmore⟩ := Text.prefix_trim blockClose_not_blank rest
    refine ⟨more, Text.after?_eq_some_iff.2 ?_⟩
    rw [Text.trim, Text.trimStart_append hw]
    exact hmore.symm

/-- The mark is the last thing on the line but for semicolons. -/
theorem closesItself_iff {line : Text} : closesItself line = true ↔
    ∃ front semicolons w, (∀ c ∈ semicolons, c = ';') ∧ (∀ c ∈ w, isBlank c = true) ∧
      line = front ++ (blockClose ++ (semicolons ++ w)) := by
  rw [closesItself, Text.endsWith, Text.startsWith, Option.isSome_iff_exists]
  constructor
  · intro h
    obtain ⟨rest, hrest⟩ := h
    obtain ⟨indent, -, hline⟩ := Text.exists_blanks_trimStart line
    obtain ⟨w, hw, htrim⟩ := Text.trimEnd_append_blanks (Text.trimStart line)
    obtain ⟨semicolons, hsemicolons, hstatement⟩ :=
      Text.exists_dropEndWhile (fun c => decide (c = ';')) (Text.trim line)
    have hclosed : Text.dropEndWhile (· = ';') (Text.trim line) = rest.reverse ++ blockClose := by
      have hreverse := congrArg List.reverse (Text.after?_eq_some_iff.1 hrest)
      rwa [List.reverse_reverse, List.reverse_append, List.reverse_reverse] at hreverse
    have hall : ∀ c ∈ semicolons, c = ';' := fun c hc => by simpa using hsemicolons c hc
    refine ⟨indent ++ rest.reverse, semicolons, w, hall, hw, ?_⟩
    calc line = indent ++ (Text.trim line ++ w) := hline.trans (congrArg (indent ++ ·) htrim)
      _ = indent ++ (rest.reverse ++ blockClose ++ semicolons ++ w) := by
        rw [← hclosed, ← hstatement]
      _ = _ := by simp
  · intro h
    obtain ⟨front, semicolons, w, hsemicolons, hw, rfl⟩ := h
    have hstart : Text.trimStart (front ++ (blockClose ++ (semicolons ++ w))) =
        Text.trimStart front ++ '\x7d' :: ')' :: (semicolons ++ w) :=
      Text.dropWhile_guard (by decide) front _
    have htrim : Text.trim (front ++ (blockClose ++ (semicolons ++ w))) =
        Text.trimStart front ++ ['\x7d'] ++ ')' :: semicolons := by
      rw [Text.trim, hstart]
      -- The last character that is not blank is a semicolon, or the mark if there is none.
      cases semicolons using List.reverseRecOn with
      | nil => simpa using Text.trimEnd_run (by decide) hw (Text.trimStart front ++ ['\x7d'])
      | append_singleton semicolons c =>
        obtain rfl := hsemicolons c (by simp)
        have hrun := Text.trimEnd_run (c := ';') (by decide) hw
          (Text.trimStart front ++ '\x7d' :: ')' :: semicolons)
        simpa using hrun
    refine ⟨(Text.trimStart front).reverse, Text.after?_eq_some_iff.2 ?_⟩
    rw [htrim, Text.dropEndWhile_run (by decide) fun c hc => decide_eq_true (hsemicolons c hc)]
    simp [blockClose]

end StyleSnapshot.Fixture
