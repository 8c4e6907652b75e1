import StyleSnapshot.Proofs.Fixture.Places
import StyleSnapshot.Proofs.Offsets.Basic
import StyleSnapshot.Proofs.Snapshot.Spans
import StyleSnapshot.Snapshot.Basic

/-! Reference blocks by offsets.

One round looks for a keyword from an offset on and either takes the block behind it out of the
text or goes on behind the keyword (`stripRound_append`). A reader of characters goes on behind
the first character of the keyword instead, which is the same, as no keyword begins within
another one (`clear_within_keyword`). Every round leaves less to look at, so that the rounds
come to an end (`strip_append`). -/
namespace StyleSnapshot.Offsets

open Text (byteLength octet Single)
open Snapshot (Keyword Written Indentation keyword? afterRoot? afterBlock? afterReference? isPrelude
  stripReferences capabilityProbes)

/-! ### Keywords -/

theorem keyword?_of_ne {before : Option Char} {d : Char} {y : Text} (hd : d ≠ '@')
    (hroot : afterRoot? before (d :: y) = none) : keyword? before (d :: y) = none := by
  have hat (lead : Text) : Text.after? ('@' :: lead) (d :: y) = none := if_neg (Ne.symm hd)
  have hlayer : Snapshot.afterLayer? (d :: y) = none := by
    rw [Snapshot.afterLayer?, show "@layer".toList = '@' :: "layer".toList from rfl, hat]
  have hword (lead : Text) : Snapshot.afterWord? ('@' :: lead) (d :: y) = none := by
    rw [Snapshot.afterWord?, hat]
    rfl
  rw [keyword?, hlayer, show "@property".toList = '@' :: "property".toList from rfl, hword,
    show "@supports".toList = '@' :: "supports".toList from rfl, hword, hroot]
  rfl

/-- No keyword begins in text without an `@` and a newline that something stands in front of. -/
theorem clear_keyword_of_plain {b : Char} {t : Text} (hb : b ≠ '\n')
    (h : ∀ c ∈ t, c ≠ '@' ∧ c ≠ '\n') (rest : Text) : Text.Clear keyword? (some b) t rest := by
  induction t generalizing b with
  | nil => trivial
  | cons c t ih =>
    have hc := h c List.mem_cons_self
    have hroot : afterRoot? (some b) (c :: t ++ rest) = none := by
      have hline : Snapshot.atLineStart (some b) = false := by simp [Snapshot.atLineStart, hb]
      rw [afterRoot?, hline, if_neg Bool.false_ne_true]
    exact ⟨keyword?_of_ne hc.1 hroot, ih hc.2 fun d hd => h d (List.mem_cons_of_mem c hd)⟩

/-- The blanks within the keyword of a layer do not indent a root selector. -/
theorem afterRoot?_of_layer {w : Text} (hw : ∀ c ∈ w, isBlank c = true) (before : Option Char) (x : Text) :
    afterRoot? before (w ++ 'p' :: x) = none := by
  have hguard := Text.dropWhile_guard (p := fun c => c = ' ' || c = '\t') (c := 'p') (by decide) w x
  have hword : Snapshot.afterWord? ":root".toList
      ((w ++ 'p' :: x).dropWhile fun c => c = ' ' || c = '\t') = none := by
    rw [hguard]
    cases hdrop : w.dropWhile fun c => c = ' ' || c = '\t' with
    | nil => rfl
    | cons d w' =>
      have hd : d ≠ ':' := fun heq => by
        have hmem : d ∈ w := (List.dropWhile_suffix _).mem (hdrop ▸ List.mem_cons_self)
        exact absurd (hw d hmem) (heq ▸ by decide)
      have hafter : Text.after? ":root".toList (d :: w' ++ 'p' :: x) = none := if_neg (Ne.symm hd)
      rw [Snapshot.afterWord?, hafter]
      rfl
  rw [afterRoot?]
  split
  · exact hword
  · rfl

theorem clear_blanks_of_layer {w : Text} (hw : ∀ c ∈ w, isBlank c = true) (before : Option Char)
    (x : Text) : Text.Clear keyword? before (w ++ ['p']) x := by
  induction w generalizing before with
  | nil => exact ⟨keyword?_of_ne (by decide) (afterRoot?_of_layer (w := []) (by simp) before _), trivial⟩
  | cons c w ih =>
    have hc : c ≠ '@' := fun heq => absurd (hw c List.mem_cons_self) (heq ▸ by decide)
    have hroot := afterRoot?_of_layer hw before x
    rw [List.cons_append] at hroot
    refine ⟨?_, ih (fun d hd => hw d (List.mem_cons_of_mem c hd)) (some c)⟩
    have hsplit : c :: (w ++ ['p']) ++ x = c :: (w ++ 'p' :: x) := by simp
    show keyword? before (c :: (w ++ ['p']) ++ x) = none
    rw [hsplit]
    exact keyword?_of_ne hc hroot

/-- No keyword begins within another one. -/
theorem clear_within_keyword {keyword : Keyword} {c : Char} {tail : Text}
    (h : Written keyword (c :: tail)) (rest : Text) : Text.Clear keyword? (some c) tail rest := by
  generalize hopening : c :: tail = opening at h
  cases h with
  | property =>
    rw [show "@property".toList = '@' :: "property".toList from rfl] at hopening
    obtain ⟨rfl, rfl⟩ := List.cons.inj hopening
    exact clear_keyword_of_plain (by decide) (by decide) rest
  | supports =>
    rw [show "@supports".toList = '@' :: "supports".toList from rfl] at hopening
    obtain ⟨rfl, rfl⟩ := List.cons.inj hopening
    exact clear_keyword_of_plain (by decide) (by decide) rest
  | @layer w hne hw =>
    have hsplit : "@layer".toList ++ w ++ "properties".toList =
        '@' :: ("layer".toList ++ ((w ++ ['p']) ++ "roperties".toList)) := by simp
    rw [hsplit] at hopening
    obtain ⟨rfl, rfl⟩ := List.cons.inj hopening
    rw [Text.clear_append, Text.clear_append, Text.endOf_concat]
    exact ⟨clear_keyword_of_plain (by decide) (by decide) _, clear_blanks_of_layer hw _ _,
      clear_keyword_of_plain (by decide) (by decide) _⟩
  | @root w hw =>
    have hplain : ∀ d ∈ c :: tail, d ≠ '@' ∧ d ≠ '\n' := by
      intro d hd
      rw [hopening, List.mem_append] at hd
      rcases hd with hd | hd
      · rcases hw d hd with rfl | rfl <;> decide
      · exact (by decide : ∀ d ∈ ":root".toList, d ≠ '@' ∧ d ≠ '\n') d hd
    exact clear_keyword_of_plain (hplain c List.mem_cons_self).2
      (fun d hd => hplain d (List.mem_cons_of_mem c hd)) rest

/-! ### One round -/

/-- The length of the keyword that stands here. -/
def keywordLength? (before : Option Char) (t : Text) : Option Nat :=
  (keyword? before t).map fun found => t.length - found.2.length

def asciiBlanks : List Char := [' ', '\t', '\n', '\x0c', '\r']

def isBlankOctet (b : UInt8) : Bool := asciiBlanks.any (b = octet ·)

/-- The number of blank bytes that a text begins with. -/
def leadingBlanks (t : Text) : Nat := ((Text.utf8 t).takeWhile isBlankOctet).length

/-- The text without what stands between two offsets. -/
def removeRange (t : Text) (start stop : Nat) : Except Fault Text :=
  if stop < start then .error .backwards
  else do
    let (front, _) ← cut start t
    let behind ← suffix t stop
    return front ++ behind

/-- Whether a block with a prelude stays. -/
def staysBehind (keyword prelude : Text) : Bool :=
  prelude.contains ';' || prelude.contains '\x7d' ||
    (keyword == "@supports".toList && !capabilityProbes.any fun probe => Text.mentions probe prelude)

/-- Takes a closed block out of the text, with the blanks behind it. -/
def removeBlock (text : Text) (start opening close : Nat) : Except Fault Text := do
  let behind ← suffix text (close + 1)
  let _ ← slice text start opening
  removeRange text start (close + 1 + leadingBlanks behind)

/-- Takes the block with an opened brace out of the text, if it is closed; else looks on behind
its keyword. -/
def stripBlock (text : Text) (start preludeStart opening : Nat) : Except Fault (Text × Nat) :=
  match closingAt? (Marks.bytes.under .literal) Brackets.braces.utf8 (Text.utf8 text) opening with
  | none => .ok (text, preludeStart)
  | some close => (removeBlock text start opening close).map fun left => (left, start)

/-- The text that is left of a keyword that ends at an offset, and where to look for the next
one; none if there is no brace behind it. -/
def stripKeyword (text : Text) (start preludeStart : Nat) : Except Fault (Option (Text × Nat)) := do
  let keyword ← slice text start preludeStart
  let rest ← suffix text preludeStart
  if '\x7b' ∈ rest then
    let opening := preludeStart + byteLength (rest.takeWhile (· ≠ '\x7b'))
    let prelude ← slice text preludeStart opening
    if staysBehind keyword prelude then return some (text, preludeStart)
    else (stripBlock text start preludeStart opening).map some
  else return none

/-- The first keyword at an offset or behind it. -/
def stripRound (text : Text) (cursor : Nat) : Except Fault (Option (Text × Nat)) := do
  match ← find keywordLength? text cursor with
  | none => return none
  | some found => stripKeyword text found.1 found.2

theorem isAsciiBlank_iff {c : Char} : isAsciiBlank c = true ↔ c ∈ asciiBlanks := by
  simp [isAsciiBlank, asciiBlanks, or_assoc]

/-- A blank byte belongs to a blank character. -/
theorem isBlankOctet_of_mem {c : Char} {b : UInt8} (hb : b ∈ String.utf8EncodeChar c) :
    isBlankOctet b = isAsciiBlank c := by
  have hsingle : ∀ q ∈ asciiBlanks, Single q := by decide
  rw [Bool.eq_iff_iff, isAsciiBlank_iff, isBlankOctet, List.any_eq_true]
  constructor
  · rintro ⟨q, hq, heq⟩
    rw [decide_eq_true_eq] at heq
    subst heq
    rwa [← (Text.octet_mem_utf8EncodeChar_iff (hsingle q hq)).1 hb]
  · intro hc
    rw [String.utf8EncodeChar_eq_singleton (hsingle c hc), List.mem_singleton] at hb
    exact ⟨c, hc, decide_eq_true hb⟩

theorem leadingBlanks_eq (t : Text) : leadingBlanks t = byteLength (t.takeWhile isAsciiBlank) := by
  induction t with
  | nil => rfl
  | cons c t ih =>
    obtain ⟨b, bytes, hbytes⟩ := List.exists_cons_of_ne_nil (String.utf8EncodeChar_ne_nil (c := c))
    rw [leadingBlanks, Text.utf8_cons]
    by_cases hc : isAsciiBlank c = true
    · have hsize : c.utf8Size = 1 := by
        have hsingle : ∀ q ∈ asciiBlanks, Single q := by decide
        exact hsingle c (isAsciiBlank_iff.1 hc)
      rw [List.takeWhile_append_of_pos fun b hb => (isBlankOctet_of_mem hb).trans hc,
        List.length_append, String.length_utf8EncodeChar, ← leadingBlanks, ih, List.takeWhile_cons,
        if_pos hc, byteLength]
    · have hb : ¬ isBlankOctet b = true := by
        rwa [isBlankOctet_of_mem (hbytes ▸ List.mem_cons_self)]
      rw [hbytes, List.cons_append, List.takeWhile_cons_of_neg hb, List.takeWhile_cons_of_neg hc]
      rfl

theorem removeRange_append (a m b : Text) :
    removeRange (a ++ (m ++ b)) (byteLength a) (byteLength a + byteLength m) = .ok (a ++ b) := by
  rw [removeRange, if_neg (by omega), cut_append, suffix_add]
  rfl

theorem staysBehind_eq {keyword : Keyword} {opening : Text} (h : Written keyword opening)
    (prelude : Text) : staysBehind opening prelude = !isPrelude keyword prelude := by
  have hkeyword : (opening == "@supports".toList) = (keyword == .supports) := by
    cases h with
    | layer => rfl
    | property => rfl
    | supports => rfl
    | @root w hw =>
      have hne : w ++ ":root".toList ≠ "@supports".toList := by
        cases w with
        | nil => decide
        | cons c w =>
          intro heq
          rcases hw c List.mem_cons_self with rfl | rfl <;> exact absurd (List.cons.inj heq).1 (by decide)
      exact beq_eq_false_iff_ne.2 hne
  rw [staysBehind, isPrelude, hkeyword, bne]
  cases prelude.contains ';' <;> cases prelude.contains '\x7d' <;> cases keyword == .supports <;>
    cases capabilityProbes.any fun probe => Text.mentions probe prelude <;> rfl

/-- The first keyword behind an offset, or none in the whole rest of the text. -/
theorem find_keyword (a x : Text) :
    (find keywordLength? (a ++ x) (byteLength a) = .ok none ∧
      stripReferences (Text.endOf none a) x = x) ∨
    ∃ skipped keyword opening behind, x = skipped ++ (opening ++ behind) ∧
      Written keyword opening ∧
      keyword? (Text.endOf none (a ++ skipped)) (opening ++ behind) = some (keyword, behind) ∧
      find keywordLength? (a ++ x) (byteLength a) =
        .ok (some (byteLength (a ++ skipped), byteLength (a ++ skipped) + byteLength opening)) ∧
      stripReferences (Text.endOf none a) x =
        skipped ++ stripReferences (Text.endOf none (a ++ skipped)) (opening ++ behind) := by
  have hmono : ∀ before y, keywordLength? before y = none → keyword? before y = none :=
    fun _ _ => Option.map_eq_none_iff.1
  rw [find_append]
  cases hfirst : Fixture.firstPlace? keywordLength? (Text.endOf none a) x with
  | none =>
    have hclear := (Fixture.firstPlace?_eq_none_iff.1 hfirst).mono hmono
    exact .inl ⟨rfl, Snapshot.stripReferences_of_no_keyword hclear⟩
  | some place =>
    obtain ⟨skipped, c, t, rfl, hskipped, hlength, hclear⟩ := Fixture.firstPlace?_eq_some_iff.1 hfirst
    obtain ⟨⟨keyword, behind⟩, hkeyword, hplace⟩ := Option.map_eq_some_iff.1 hlength
    obtain ⟨-, opening, hwritten, htext, -⟩ := Snapshot.keyword?_eq_some_iff.1 hkeyword
    rw [htext] at hkeyword hplace hclear ⊢
    have hstop : place.2 = opening.length := by
      rw [← hplace, List.length_append, Nat.add_sub_cancel_right]
    refine .inr ⟨skipped, keyword, opening, behind, rfl, hwritten, ?_, ?_, ?_⟩
    · rwa [Text.endOf_append]
    · rw [Option.map_some, ← hskipped, hstop, List.take_left, ← List.append_assoc,
        ← List.length_append, List.take_left, Text.byteLength_append, Text.byteLength_append,
        Nat.add_assoc]
    · rw [Text.endOf_append]
      exact Snapshot.stripReferences_no_keyword (hclear.mono hmono)

/-- Behind a keyword that begins no reference block the search goes on. -/
theorem stripReferences_keyword {keyword : Keyword} {opening : Text} (h : Written keyword opening)
    {before : Option Char} {behind : Text}
    (hnone : Snapshot.afterReference? before (opening ++ behind) = none) :
    stripReferences before (opening ++ behind) =
      opening ++ stripReferences (Text.endOf before opening) behind := by
  cases opening with
  | nil => rfl
  | cons c tail =>
    have hfirst : stripReferences before (c :: (tail ++ behind)) =
        c :: stripReferences (some c) (tail ++ behind) := Snapshot.stripReferences_of_none hnone
    rw [List.cons_append, hfirst, Snapshot.stripReferences_no_keyword (clear_within_keyword h behind)]
    rfl

theorem afterBlock?_brace {prelude : Text} (h : '\x7b' ∉ prelude) (keyword : Keyword) (inside : Text) :
    afterBlock? keyword (prelude ++ '\x7b' :: inside) =
      if isPrelude keyword prelude then
        (Snapshot.closingBrace? inside).map fun n => (inside.drop (n + 1)).dropWhile isAsciiBlank
      else none := by
  rw [afterBlock?, dropWhile_brace h, takeWhile_brace h]

/-- A closed block is taken out with the blanks behind it. -/
theorem removeBlock_append (front opened body rest : Text) :
    removeBlock (front ++ (opened ++ '\x7b' :: (body ++ '\x7d' :: rest))) (byteLength front)
      (byteLength front + byteLength opened)
      (byteLength front + byteLength opened + 1 + byteLength body) =
    .ok (front ++ rest.dropWhile isAsciiBlank) := by
  have hopened := slice_append front opened ('\x7b' :: (body ++ '\x7d' :: rest))
  let block := opened ++ '\x7b' :: (body ++ ['\x7d'])
  have htext : front ++ (opened ++ '\x7b' :: (body ++ '\x7d' :: rest)) = front ++ (block ++ rest) := by
    simp [block]
  have hstop : byteLength front + byteLength opened + 1 + byteLength body + 1 =
      byteLength front + byteLength block := by
    have hopen : '\x7b'.utf8Size = 1 := rfl
    have hclose : '\x7d'.utf8Size = 1 := rfl
    simp only [block, Text.byteLength_append, byteLength, hopen, hclose]
    omega
  have hremove : removeRange (front ++ (block ++ rest)) (byteLength front)
      (byteLength front + byteLength block + leadingBlanks rest) =
        .ok (front ++ rest.dropWhile isAsciiBlank) := by
    have hremove := removeRange_append front (block ++ rest.takeWhile isAsciiBlank)
      (rest.dropWhile isAsciiBlank)
    rwa [List.append_assoc, List.takeWhile_append_dropWhile, Text.byteLength_append block,
      ← leadingBlanks_eq, ← Nat.add_assoc] at hremove
  rw [htext] at hopened ⊢
  rw [removeBlock, hstop, suffix_add, hopened]
  exact hremove

/-- What becomes of a block whose brace is opened. -/
theorem stripBlock_append (front opening prelude inside : Text) :
    stripBlock (front ++ (opening ++ (prelude ++ '\x7b' :: inside))) (byteLength front)
      (byteLength front + byteLength opening)
      (byteLength front + byteLength opening + byteLength prelude) =
    .ok (match Snapshot.closingBrace? inside with
      | none => (front ++ (opening ++ (prelude ++ '\x7b' :: inside)),
          byteLength front + byteLength opening)
      | some n => (front ++ (inside.drop (n + 1)).dropWhile isAsciiBlank, byteLength front)) := by
  have hbytes : byteLength front + byteLength opening + byteLength prelude =
      byteLength (front ++ (opening ++ prelude)) := by
    rw [Text.byteLength_append, Text.byteLength_append, Nat.add_assoc]
  have htext : front ++ (opening ++ (prelude ++ '\x7b' :: inside)) =
      (front ++ (opening ++ prelude)) ++ '\x7b' :: inside := by simp
  have hclose : closingAt? (Marks.bytes.under .literal) Brackets.braces.utf8
        (Text.utf8 ((front ++ (opening ++ prelude)) ++ '\x7b' :: inside))
        (byteLength (front ++ (opening ++ prelude))) =
      (Snapshot.closingBrace? inside).map fun n =>
        byteLength (front ++ (opening ++ prelude)) + 1 + byteLength (inside.take n) :=
    closingAt?_utf8 singles_literal singles_braces (by decide) _ inside
  rw [stripBlock, hbytes, htext, hclose]
  cases hn : Snapshot.closingBrace? inside with
  | none => rfl
  | some n =>
    obtain ⟨body, rest, rfl, rfl, -⟩ := eq_of_closingFrom? hn
    have hdrop : (body ++ '\x7d' :: rest).drop (body.length + 1) = rest :=
      List.drop_length_add_append 1
    have hremove := removeBlock_append front (opening ++ prelude) body rest
    rw [← Text.byteLength_append, ← List.append_assoc front] at hremove
    simp only [Option.map_some, List.take_left, hremove, hdrop]
    rfl

theorem stripKeyword_append (front opening behind : Text) :
    stripKeyword (front ++ (opening ++ behind)) (byteLength front)
      (byteLength front + byteLength opening) =
    if '\x7b' ∈ behind then do
      let prelude ← slice (front ++ (opening ++ behind)) (byteLength front + byteLength opening)
        (byteLength front + byteLength opening + byteLength (behind.takeWhile (· ≠ '\x7b')))
      if staysBehind opening prelude then
        return some (front ++ (opening ++ behind), byteLength front + byteLength opening)
      else (stripBlock (front ++ (opening ++ behind)) (byteLength front)
        (byteLength front + byteLength opening)
        (byteLength front + byteLength opening + byteLength (behind.takeWhile (· ≠ '\x7b')))).map some
    else .ok none := by
  rw [stripKeyword, slice_append, suffix_add]
  rfl

/-- What becomes of a keyword with a brace behind it. -/
theorem stripKeyword_brace {prelude : Text} (h : '\x7b' ∉ prelude) (front opening inside : Text) :
    stripKeyword (front ++ (opening ++ (prelude ++ '\x7b' :: inside))) (byteLength front)
      (byteLength front + byteLength opening) =
    if staysBehind opening prelude then
      .ok (some (front ++ (opening ++ (prelude ++ '\x7b' :: inside)),
        byteLength front + byteLength opening))
    else .ok (some (match Snapshot.closingBrace? inside with
      | none => (front ++ (opening ++ (prelude ++ '\x7b' :: inside)),
          byteLength front + byteLength opening)
      | some n => (front ++ (inside.drop (n + 1)).dropWhile isAsciiBlank, byteLength front))) := by
  have hprelude := slice_append (front ++ opening) prelude ('\x7b' :: inside)
  rw [Text.byteLength_append, List.append_assoc] at hprelude
  rw [stripKeyword_append, if_pos (by simp), takeWhile_brace h, hprelude, stripBlock_append]
  rfl

/-- What becomes of a keyword: what begins there is taken out, if it is a reference block. -/
theorem stripKeyword_eq {keyword : Keyword} {opening : Text} (h : Written keyword opening)
    {before : Option Char} {behind : Text}
    (hkeyword : keyword? before (opening ++ behind) = some (keyword, behind)) (front : Text) :
    stripKeyword (front ++ (opening ++ behind)) (byteLength front)
      (byteLength front + byteLength opening) =
    .ok (if '\x7b' ∈ behind then
        some (match Snapshot.afterReference? before (opening ++ behind) with
          | none => (front ++ (opening ++ behind), byteLength front + byteLength opening)
          | some following => (front ++ following, byteLength front))
      else none) := by
  by_cases hbrace : '\x7b' ∈ behind
  · obtain ⟨prelude, inside, rfl, hprelude⟩ := List.eq_append_cons_of_mem hbrace
    rw [if_pos hbrace, stripKeyword_brace hprelude, staysBehind_eq h, Snapshot.afterReference?,
      hkeyword, Option.bind_some, afterBlock?_brace hprelude]
    cases isPrelude keyword prelude with
    | false => rfl
    | true => cases Snapshot.closingBrace? inside <;> rfl
  · rw [if_neg hbrace, stripKeyword_append, if_neg hbrace]

/-- What a round may leave: the whole text, as there is nothing to take out of it, or a text that
is stripped up to an offset and shorter behind it. -/
def Rounded (a x : Text) : Option (Text × Nat) → Prop
  | none => stripReferences (Text.endOf none a) x = x
  | some (text, cursor) => ∃ kept rest, text = a ++ kept ++ rest ∧ cursor = byteLength (a ++ kept) ∧
      byteLength rest < byteLength x ∧
      stripReferences (Text.endOf none a) x =
        kept ++ stripReferences (Text.endOf none (a ++ kept)) rest

section Round
variable {a x skipped opening behind : Text}
  (hx : x = skipped ++ (opening ++ behind))
  (hstrip : stripReferences (Text.endOf none a) x =
    skipped ++ stripReferences (Text.endOf none (a ++ skipped)) (opening ++ behind))
include hx hstrip

/-- The text stays, and the search goes on behind a keyword. -/
theorem rounded_behind {keyword : Keyword} (hwritten : Written keyword opening)
    (hnone : Snapshot.afterReference? (Text.endOf none (a ++ skipped)) (opening ++ behind) = none) :
    Rounded a x (some (a ++ x, byteLength (a ++ skipped) + byteLength opening)) := by
  refine ⟨skipped ++ opening, behind, by simp [hx], ?_, ?_, ?_⟩
  · rw [← List.append_assoc, Text.byteLength_append (a ++ skipped)]
  · have hopening : 0 < byteLength opening := byteLength_pos (by cases hwritten <;> simp)
    rw [hx, Text.byteLength_append, Text.byteLength_append]
    omega
  · rw [hstrip, stripReferences_keyword hwritten hnone, ← List.append_assoc, ← List.append_assoc,
      Text.endOf_append _ (a ++ skipped)]

/-- A block is taken out, and the search goes on in its place. -/
theorem rounded_block {following : Text}
    (hblock : Snapshot.afterReference? (Text.endOf none (a ++ skipped)) (opening ++ behind) =
      some following) :
    Rounded a x (some (a ++ skipped ++ following, byteLength (a ++ skipped))) := by
  refine ⟨skipped, following, rfl, rfl, ?_, ?_⟩
  · obtain ⟨prelude, body, w, htext, -⟩ := Snapshot.eq_of_afterReference? hblock
    have hbrace := '\x7b'.utf8Size_pos
    simp only [hx, htext, Text.byteLength_append, byteLength]
    omega
  · rw [hstrip, Snapshot.stripReferences_of_some hblock]

end Round

/-- One round. -/
theorem stripRound_append (a x : Text) :
    ∃ round, stripRound (a ++ x) (byteLength a) = .ok round ∧ Rounded a x round := by
  rcases find_keyword a x with ⟨hfind, hstrip⟩ |
    ⟨skipped, keyword, opening, behind, hx, hwritten, hkeyword, hfind, hstrip⟩
  · refine ⟨none, ?_, hstrip⟩
    rw [stripRound, hfind]
    rfl
  have htext : (a ++ skipped) ++ (opening ++ behind) = a ++ x := by rw [hx, List.append_assoc]
  have hround := stripKeyword_eq hwritten hkeyword (a ++ skipped)
  rw [htext] at hround
  rw [stripRound, hfind]
  show ∃ round, stripKeyword (a ++ x) (byteLength (a ++ skipped))
    (byteLength (a ++ skipped) + byteLength opening) = .ok round ∧ Rounded a x round
  rw [hround]
  refine ⟨_, rfl, ?_⟩
  by_cases hbrace : '\x7b' ∈ behind
  · rw [if_pos hbrace]
    cases hblock : Snapshot.afterReference? (Text.endOf none (a ++ skipped)) (opening ++ behind) with
    | none => exact rounded_behind hx hstrip hwritten hblock
    | some following => exact rounded_block hx hstrip hblock
  · have hplain : '\x7b' ∉ opening ++ behind := by
      rw [List.mem_append, not_or]
      exact ⟨hwritten.plain.1, hbrace⟩
    rw [if_neg hbrace, Rounded, hstrip, Snapshot.stripReferences_of_no_brace hplain, hx]

/-! ### All rounds -/

/-- Takes every reference block that begins at an offset or behind it out of the text. A round
has to leave less behind the offset than there was. -/
def strip (text : Text) (cursor : Nat) : Except Fault Text :=
  match stripRound text cursor with
  | .error fault => .error fault
  | .ok none => .ok text
  | .ok (some (left, next)) =>
    if byteLength left - next < byteLength text - cursor then strip left next else .error .stuck
termination_by byteLength text - cursor

/-- Prepares the body of a snapshot for comparison. -/
def sanitize (raw : Text) : Except Fault Text := (strip (Snapshot.unquote raw) 0).map Text.trim

/-- Behind text that is stripped already, the rounds strip the rest. -/
theorem strip_append (a x : Text) :
    strip (a ++ x) (byteLength a) = .ok (a ++ stripReferences (Text.endOf none a) x) := by
  induction hn : byteLength x using Nat.strongRecOn generalizing a x with
  | ind n ih =>
    subst hn
    obtain ⟨round, hround, hleft⟩ := stripRound_append a x
    cases round with
    | none =>
      have hstrip : stripReferences (Text.endOf none a) x = x := hleft
      rw [strip, hround, hstrip]
    | some found =>
      obtain ⟨kept, rest, htext, hcursor, hshorter, hstrip⟩ := hleft
      have hless : byteLength (a ++ kept ++ rest) - byteLength (a ++ kept) <
          byteLength (a ++ x) - byteLength a := by
        rw [Text.byteLength_append (a ++ kept), Text.byteLength_append a x]
        omega
      rw [strip, hround]
      simp only [htext, hcursor, if_pos hless]
      rw [ih _ hshorter (a ++ kept) rest rfl, hstrip, List.append_assoc]

theorem sanitize_eq (raw : Text) : sanitize raw = .ok (Snapshot.sanitize raw) := by
  have hstrip := strip_append [] (Snapshot.unquote raw)
  rw [List.nil_append, List.nil_append] at hstrip
  rw [sanitize, show (0 : Nat) = byteLength [] from rfl, hstrip]
  rfl

end StyleSnapshot.Offsets
