import Mathlib.Data.List.DropRight
import StyleSnapshot.Fixture.Tokens
import StyleSnapshot.Proofs.Scan

/-! Text with literals in it.

A text that is written part by part (`Part`), each a complete literal or text without quotes,
is scanned part by part: a literal is passed over, so that only the text outside of the
literals counts (`walk_written`). Inside of a quotation a scan stands behind an escape only if the
backslashes in front are odd in number (`walk_unclosed`). A scan that begins inside of a literal takes the end of the
literal for the beginning of one, and from there on it is inside of what it takes for a
literal whenever a real one ends (`astray_of_inside`, `astray_append_written`). -/
namespace StyleSnapshot

/-- The number of backslashes that a text ends in. -/
def Text.backslashesAtEnd (t : Text) : Nat := (t.rtakeWhile (· = '\\')).length

namespace Text

@[simp]
theorem backslashesAtEnd_nil : backslashesAtEnd [] = 0 := rfl

@[simp]
theorem backslashesAtEnd_concat (t : Text) (c : Char) :
    backslashesAtEnd (t ++ [c]) = if c = '\\' then backslashesAtEnd t + 1 else 0 := by
  unfold backslashesAtEnd
  rw [List.rtakeWhile_concat]
  split
  · next hc => rw [if_pos (of_decide_eq_true hc), List.length_append, List.length_singleton]
  · next hc => rw [if_neg (of_decide_eq_false (Bool.not_eq_true _ ▸ hc)), List.length_nil]

theorem backslashesAtEnd_of_not_mem {t : Text} (h : '\\' ∉ t) : backslashesAtEnd t = 0 := by
  rcases List.eq_nil_or_concat t with rfl | ⟨front, c, rfl⟩
  · rfl
  · rw [List.concat_eq_append, List.mem_append, List.mem_singleton, not_or] at h
    rw [List.concat_eq_append, backslashesAtEnd_concat, if_neg (Ne.symm h.2)]

end Text

namespace Fixture

open Text (backslashesAtEnd)

/-- A literal without escapes that holds anything but its own quote. -/
structure Literal where
  quote : Char
  inside : Text
  isQuote : quote ∈ Marks.chars.quotes
  closed : quote ∉ inside
  plain : '\\' ∉ inside

/-- Text without quotes and escapes. -/
structure Bare where
  text : Text
  unquoted : ∀ c ∈ text, c ∉ Marks.chars.quotes
  plain : '\\' ∉ text

inductive Part where
  | literal (l : Literal)
  | bare (b : Bare)

namespace Part

def text : Part → Text
  | .literal l => l.quote :: (l.inside ++ [l.quote])
  | .bare b => b.text

/-- What stands outside of literals. -/
def outside : Part → Text
  | .literal _ => []
  | .bare b => b.text

def inside? : Part → Option Text
  | .literal l => some l.inside
  | .bare _ => none

end Part

/-- The parts one behind the other. -/
def written (parts : List Part) : Text := parts.flatMap (·.text)

/-- The parts that are no literals, one behind the other. -/
def outside (parts : List Part) : Text := parts.flatMap (·.outside)

theorem written_cons (p : Part) (parts : List Part) :
    written (p :: parts) = p.text ++ written parts := rfl

theorem outside_cons (p : Part) (parts : List Part) :
    outside (p :: parts) = p.outside ++ outside parts := rfl

theorem written_append (parts more : List Part) :
    written (parts ++ more) = written parts ++ written more := List.flatMap_append

theorem outside_append (parts more : List Part) :
    outside (parts ++ more) = outside parts ++ outside more := List.flatMap_append

theorem unquoted_outside (parts : List Part) : ∀ c ∈ outside parts, c ∉ Marks.chars.quotes := by
  intro c hc
  obtain ⟨p, -, hp⟩ := List.mem_flatMap.1 hc
  cases p with
  | literal l => exact absurd hp List.not_mem_nil
  | bare b => exact b.unquoted c hp

theorem escape_not_mem_quotes : Marks.chars.escape ∉ Marks.chars.quotes := by decide

/-! ### A scan from outside -/

section Scan
variable {pair : Brackets Char}

/-- Where a scan stands behind text without the quote: behind an escape, or not. -/
theorem walk_unclosed {q : Char} {t : Text} (hclosed : q ∉ t) (nested : Nat) :
    walk Marks.chars pair (.quoted q, nested) t =
      some (if backslashesAtEnd t % 2 = 0 then .quoted q else .escaped q, nested) := by
  -- The backslashes that count are those at the end, so the text grows at its end.
  induction t using List.reverseRecOn with
  | nil => rfl
  | append_singleton t c ih =>
    rw [List.mem_append, List.mem_singleton, not_or] at hclosed
    have hc : c ≠ q := Ne.symm hclosed.2
    rw [walk_append, ih hclosed.1, Option.bind_some, Text.backslashesAtEnd_concat]
    by_cases hslash : c = '\\'
    · subst hslash
      rw [if_pos rfl]
      by_cases heven : backslashesAtEnd t % 2 = 0
      · have hodd : ¬ (backslashesAtEnd t + 1) % 2 = 0 := by omega
        rw [if_pos heven, if_neg hodd]
        rfl
      · have hnext : (backslashesAtEnd t + 1) % 2 = 0 := by omega
        rw [if_neg heven, if_pos hnext]
        rfl
    · have hescape : c ≠ Marks.chars.escape := hslash
      rw [if_neg hslash, if_pos (Nat.zero_mod 2)]
      split
      · simp only [walk, Place.step, Place.next, if_neg hescape, if_neg hc, Option.bind_some]
      · rfl

/-- Inside of a literal a scan goes on to its end. -/
theorem walk_inside {q : Char} {t : Text} (hclosed : q ∉ t) (hplain : '\\' ∉ t) (nested : Nat) :
    walk Marks.chars pair (.quoted q, nested) t = some (.quoted q, nested) := by
  rw [walk_unclosed hclosed, Text.backslashesAtEnd_of_not_mem hplain]
  rfl

theorem step_quoted_self {q : Char} (hq : q ∈ Marks.chars.quotes) (nested : Nat) :
    (Place.quoted q).step Marks.chars pair q nested = some (.plain, nested) := by
  have hescape : q ≠ Marks.chars.escape := fun h => escape_not_mem_quotes (h ▸ hq)
  simp only [Place.step, Place.next, if_neg hescape, if_true]

/-- A quotation is passed over if no backslash hides the quote at its end. -/
theorem walk_quotation {q : Char} (hq : q ∈ Marks.chars.quotes) {t : Text} (hclosed : q ∉ t)
    (hend : backslashesAtEnd t % 2 = 0) (nested : Nat) :
    walk Marks.chars pair (.plain, nested) (q :: (t ++ [q])) = some (.plain, nested) := by
  have hopen : Place.step Marks.chars pair q .plain nested = some (.quoted q, nested) := by
    simp only [Place.step, if_pos hq]
  rw [walk, hopen, Option.bind_some, walk_append, walk_unclosed hclosed, if_pos hend,
    Option.bind_some, walk, step_quoted_self hq]
  rfl

/-- A literal is passed over. -/
theorem walk_literal (l : Literal) (nested : Nat) :
    walk Marks.chars pair (.plain, nested) (Part.literal l).text = some (.plain, nested) := by
  apply walk_quotation l.isQuote l.closed
  rw [Text.backslashesAtEnd_of_not_mem l.plain]

/-- Behind text without quotes a scan from outside of a literal is outside. -/
theorem plain_of_walk {t : Text} (h : ∀ c ∈ t, c ∉ Marks.chars.quotes) {nested : Nat}
    {next : Place Char × Nat} (hwalk : walk Marks.chars pair (.plain, nested) t = some next) :
    next.1 = .plain := by
  induction t generalizing nested with
  | nil =>
    obtain rfl := Option.some.inj hwalk
    rfl
  | cons c t ih =>
    have hrest := fun {n} => @ih (fun d hd => h d (List.mem_cons_of_mem c hd)) n
    rw [walk_plain_cons (h c List.mem_cons_self)] at hwalk
    split at hwalk
    · exact hrest hwalk
    · split at hwalk
      · split at hwalk
        · exact absurd hwalk.symm (Option.some_ne_none next)
        · exact hrest hwalk
      · exact hrest hwalk

/-- Only what stands outside of literals counts. -/
theorem walk_written (nested : Nat) (parts : List Part) :
    walk Marks.chars pair (.plain, nested) (written parts) =
      walk Marks.chars pair (.plain, nested) (outside parts) := by
  induction parts generalizing nested with
  | nil => rfl
  | cons p parts ih =>
    rw [written_cons, outside_cons, walk_append, walk_append]
    cases p with
    | literal l =>
      rw [walk_literal, Option.bind_some]
      exact ih nested
    | bare b =>
      refine Option.bind_congr fun next hnext => ?_
      obtain ⟨place, nested⟩ := next
      obtain rfl : place = .plain := plain_of_walk b.unquoted hnext
      exact ih nested

/-! ### A scan from inside -/

/-- A place where a scan stands inside of a real literal with quote `q` that it has not seen
begin. -/
def Beside (q : Char) : Place Char → Prop
  | .plain => True
  | .quoted r => r ∈ Marks.chars.quotes ∧ r ≠ q
  | .escaped _ => False

theorem Beside.step {q c : Char} {place : Place Char} (h : Beside q place) (hc : c ≠ q)
    (hescape : c ≠ '\\') {nested : Nat} {s : Place Char × Nat}
    (hs : place.step Marks.chars pair c nested = some s) : Beside q s.1 := by
  cases place with
  | plain =>
    simp only [Place.step] at hs
    split at hs
    · next hquote =>
      obtain rfl := Option.some.inj hs
      exact ⟨hquote, hc⟩
    · split at hs
      · obtain rfl := Option.some.inj hs
        trivial
      · split at hs
        · cases nested with
          | zero => exact absurd hs.symm (Option.some_ne_none s)
          | succ outer =>
            obtain rfl := Option.some.inj hs
            trivial
        · obtain rfl := Option.some.inj hs
          trivial
  | quoted r =>
    obtain rfl := Option.some.inj hs
    have hplain : c ≠ Marks.chars.escape := hescape
    simp only [Place.next, if_neg hplain]
    split
    · trivial
    · exact h
  | escaped r => exact absurd h id

/-- What ends the real literal begins one to the scan, or means nothing to it. -/
theorem Beside.step_self {q : Char} (hq : q ∈ Marks.chars.quotes) {place : Place Char}
    (h : Beside q place) (nested : Nat) :
    ∃ r ∈ Marks.chars.quotes, place.step Marks.chars pair q nested = some (.quoted r, nested) := by
  cases place with
  | plain => exact ⟨q, hq, by simp only [Place.step, if_pos hq]⟩
  | quoted r =>
    have hescape : q ≠ Marks.chars.escape := fun heq => escape_not_mem_quotes (heq ▸ hq)
    exact ⟨r, h.1, by simp only [Place.step, Place.next, if_neg hescape, if_neg (Ne.symm h.2)]⟩
  | escaped r => exact absurd h id

/-- A scan that does not know of a literal that it is inside of has lost its way at its end. -/
theorem astray_of_inside {q : Char} (hq : q ∈ Marks.chars.quotes) {t : Text} (hclosed : q ∉ t)
    (hplain : '\\' ∉ t) {s : Place Char × Nat} (h : Beside q s.1) :
    Astray Marks.chars (walk Marks.chars pair s (t ++ [q])) := by
  induction t generalizing s with
  | nil =>
    obtain ⟨r, hr, hstep⟩ := h.step_self hq s.2
    rw [List.nil_append, walk, hstep]
    rintro next hnext
    obtain rfl := Option.some.inj hnext
    exact ⟨r, hr, rfl⟩
  | cons c t ih =>
    rw [List.mem_cons, not_or] at hclosed hplain
    rw [List.cons_append, walk]
    intro next hnext
    obtain ⟨middle, hstep, hwalk⟩ := Option.bind_eq_some_iff.1 hnext
    exact ih hclosed.2 hplain.2 (h.step (Ne.symm hclosed.1) (Ne.symm hplain.1) hstep) next hwalk

/-- To a scan inside of a quotation a part is the end of one and the beginning of the next. -/
theorem astray_part {r : Char} (hr : r ∈ Marks.chars.quotes) (nested : Nat) (p : Part) :
    Astray Marks.chars (walk Marks.chars pair (.quoted r, nested) p.text) := by
  cases p with
  | bare b =>
    have hclosed : r ∉ b.text := fun hmem => b.unquoted r hmem hr
    rw [Part.text, walk_inside hclosed b.plain]
    intro next hnext
    obtain rfl := Option.some.inj hnext
    exact ⟨r, hr, rfl⟩
  | literal l =>
    have hescape : l.quote ≠ Marks.chars.escape := fun h => escape_not_mem_quotes (h ▸ l.isQuote)
    have hbeside : Beside l.quote (Place.next Marks.chars l.quote (.quoted r)) := by
      simp only [Place.next, if_neg hescape]
      split
      · trivial
      · next hne => exact ⟨hr, Ne.symm hne⟩
    exact astray_of_inside (s := (Place.next Marks.chars l.quote (.quoted r), nested)) l.isQuote l.closed
      l.plain hbeside

/-- A scan that has lost its way does not find back. -/
theorem astray_append_written {s : Place Char × Nat} {a : Text}
    (h : Astray Marks.chars (walk Marks.chars pair s a)) (parts : List Part) :
    Astray Marks.chars (walk Marks.chars pair s (a ++ written parts)) := by
  induction parts generalizing a with
  | nil => rwa [show written [] = [] from rfl, List.append_nil]
  | cons p parts ih =>
    rw [written_cons, ← List.append_assoc]
    refine ih ?_
    rw [walk_append]
    intro next hnext
    obtain ⟨⟨place, nested⟩, hwalk, hpart⟩ := Option.bind_eq_some_iff.1 hnext
    obtain ⟨r, hr, rfl⟩ := h _ hwalk
    exact astray_part hr nested p next hpart

/-- What stands in a literal and not at its ends stands inside. -/
theorem Literal.split {l : Literal} {c : Char} (hc : c ≠ l.quote) {before behind : Text}
    (h : (Part.literal l).text = before ++ c :: behind) :
    ∃ lead rest, behind = rest ++ [l.quote] ∧ l.inside = lead ++ c :: rest := by
  cases before with
  | nil => exact absurd (List.cons.inj h).1.symm hc
  | cons d lead =>
    have htail : l.inside ++ [l.quote] = lead ++ c :: behind := (List.cons.inj h).2
    rcases List.eq_nil_or_concat behind with rfl | ⟨rest, d, rfl⟩
    · exact absurd (List.append_inj_right' htail rfl) (by simpa using Ne.symm hc)
    · rw [List.concat_eq_append, ← List.cons_append, ← List.append_assoc] at htail
      obtain ⟨hinside, hlast⟩ := List.append_inj' htail rfl
      obtain rfl := (List.cons.inj hlast).1
      exact ⟨lead, rest, List.concat_eq_append, hinside⟩

section Opening
variable (hne : pair.opening ≠ pair.closing) (hquote : pair.opening ∉ Marks.chars.quotes)
include hne hquote

theorem astray_behind_part {p : Part} {parts : List Part} {depth : Nat}
    (h : Closes pair depth (outside (p :: parts))) {before behind : Text}
    (hpart : p.text = before ++ pair.opening :: behind) :
    Astray Marks.chars (walk Marks.chars pair (.plain, 0) (behind ++ written parts)) := by
  cases p with
  | literal l =>
    have hmark : pair.opening ≠ l.quote := fun he => hquote (he ▸ l.isQuote)
    obtain ⟨lead, rest, rfl, hinside⟩ := Literal.split hmark hpart
    refine astray_append_written ?_ parts
    refine astray_of_inside l.isQuote (fun hmem => l.closed ?_) (fun hmem => l.plain ?_) trivial <;>
      · rw [hinside]
        exact List.mem_append_right lead (List.mem_cons_of_mem _ hmem)
  | bare b =>
    have hb : b.text = before ++ pair.opening :: behind := hpart
    have hmem {c : Char} (hc : c ∈ behind) : c ∈ b.text := by
      rw [hb]
      exact List.mem_append_right before (List.mem_cons_of_mem _ hc)
    -- The delimiter is one more to close, and all are closed in the end.
    have hopen : ∃ left, Closes pair (left + 1) (behind ++ outside parts) := by
      rw [outside_cons, Part.outside, hb, List.append_assoc] at h
      obtain ⟨left, hleft⟩ := h.exists_suffix
      exact ⟨left, (closes_opening hne).1 hleft⟩
    obtain ⟨left, hleft⟩ := hopen
    let rest : Part := .bare ⟨behind, fun c hc => b.unquoted c (hmem hc), fun hc => b.plain (hmem hc)⟩
    have hstop : walk Marks.chars pair (.plain, 0) (written (rest :: parts)) = none := by
      rw [walk_written, walk_closes hne (unquoted_outside _) hleft,
        if_neg (Nat.not_succ_le_zero left)]
    intro s hs
    exact absurd (hstop.symm.trans hs).symm (Option.some_ne_none s)

/-- From an opening delimiter on a scan stops where the delimiter is closed, or, if a literal
holds the delimiter, loses its way. -/
theorem astray_behind_opening {depth : Nat} {parts : List Part}
    (h : Closes pair depth (outside parts)) {before behind : Text}
    (heq : written parts = before ++ pair.opening :: behind) :
    Astray Marks.chars (walk Marks.chars pair (.plain, 0) behind) := by
  induction parts generalizing depth before with
  | nil => exact absurd heq (by simp [written])
  | cons p parts ih =>
    have hrest : ∃ left, Closes pair left (outside parts) := by
      rw [outside_cons] at h
      exact h.exists_suffix
    obtain ⟨left, hleft⟩ := hrest
    rw [written_cons] at heq
    rcases List.append_eq_append_iff.1 heq with ⟨between, -, hbehind⟩ | ⟨between, hpart, hbehind⟩
    · exact ih hleft hbehind
    · cases between with
      | nil =>
        have heq : written parts = [] ++ pair.opening :: behind := hbehind.symm
        exact ih hleft heq
      | cons c between =>
        obtain ⟨rfl, rfl⟩ := List.cons.inj hbehind
        exact astray_behind_part hne hquote h hpart

end Opening

end Scan

/-! ### Tokens -/

/-- A token between its quotes. -/
theorem tokensFrom_enclosed {q : Char} (hq : q = '\'' ∨ q = '"') {t : Text} (h : q ∉ t) (x : Text) :
    tokensFrom none (q :: (t ++ q :: x)) = t :: tokensFrom none x := by
  have inside : ∀ u soFar : Text, q ∉ u →
      tokensFrom (some (q, soFar)) (u ++ q :: x) = (soFar.reverse ++ u) :: tokensFrom none x := by
    intro u
    induction u with
    | nil => intro soFar _; simp [tokensFrom]
    | cons c u ih =>
      intro soFar hu
      rw [List.mem_cons, not_or] at hu
      rw [List.cons_append, tokensFrom, if_neg (Ne.symm hu.1), ih (c :: soFar) hu.2]
      simp
  have hopen : (q = '\'' || q = '"') = true := by
    rcases hq with rfl | rfl <;> rfl
  rw [tokensFrom, if_pos hopen, inside t [] h]
  rfl

theorem tokensFrom_unquoted {t : Text} (h : ∀ c ∈ t, c ∉ Marks.chars.quotes) (x : Text) :
    tokensFrom none (t ++ x) = tokensFrom none x := by
  induction t with
  | nil => rfl
  | cons c t ih =>
    have hc : ¬ (c = '\'' || c = '"') = true := by
      intro hmem
      refine h c List.mem_cons_self ?_
      rw [Bool.or_eq_true, decide_eq_true_eq, decide_eq_true_eq] at hmem
      rcases hmem with rfl | rfl <;> decide
    rw [List.cons_append, tokensFrom, if_neg hc]
    exact ih fun d hd => h d (List.mem_cons_of_mem c hd)

/-- The literals are the tokens, provided that none is a template. -/
theorem tokens_written {parts : List Part}
    (h : ∀ l, Part.literal l ∈ parts → l.quote = '\'' ∨ l.quote = '"') :
    tokens (written parts) = parts.filterMap (·.inside?) := by
  rw [tokens]
  induction parts with
  | nil => rfl
  | cons p parts ih =>
    have hrest := ih fun l hl => h l (List.mem_cons_of_mem p hl)
    rw [written_cons]
    cases p with
    | bare b => rw [Part.text, tokensFrom_unquoted b.unquoted, hrest]; rfl
    | literal l =>
      have htext : (Part.literal l).text ++ written parts =
          l.quote :: (l.inside ++ l.quote :: written parts) := by simp [Part.text]
      rw [htext, tokensFrom_enclosed (h l List.mem_cons_self) l.closed, hrest]
      rfl

end Fixture

end StyleSnapshot
