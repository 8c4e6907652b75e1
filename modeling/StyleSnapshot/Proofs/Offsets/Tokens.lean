import StyleSnapshot.Proofs.Fixture.Arrays
import StyleSnapshot.Proofs.Offsets.Basic

/-! Tokens by offsets.

A reader of bytes finds the same quotes as a reader of characters, since no byte of a longer
character is a quote, and it cuts the tokens out at the quotes (`tokensFrom_append`). Of a
themed call it tries the brackets in the same order, and what closes at one offset closes at
one character (`themedTokens_append`). Of an array of quoted tokens the end is found where it is,
and the tokens come back (`array_bounds_and_tokens`). -/
namespace StyleSnapshot.Offsets

open Text (byteLength octet Single)
open Fixture (TokenArray)

/-! ### Tokens of an array -/

/-- Whether a byte is a quote that a token may stand in. -/
def IsQuote (b : UInt8) : Prop := b = octet '\'' ∨ b = octet '"'

instance (b : UInt8) : Decidable (IsQuote b) :=
  inferInstanceAs (Decidable (b = octet '\'' ∨ b = octet '"'))

/-- The bytes from an offset on. -/
def bytesFrom (bytes : List UInt8) (start : Nat) : Except Fault (List UInt8) :=
  if bytes.length < start then .error .outside else .ok (bytes.drop start)

/-- The tokens that begin at an offset or behind it. -/
def tokensFrom (inner : Text) (index : Nat) : Except Fault (List Text) :=
  match _h : (Text.utf8 inner)[index]? with
  | none => .ok []
  | some b =>
    if IsQuote b then do
      let rest ← bytesFrom (Text.utf8 inner) (index + 1)
      match rest.findIdx? (· == b) with
      | none => return []
      | some length =>
        let token ← slice inner (index + 1) (index + 1 + length)
        let more ← tokensFrom inner (index + 1 + length + 1)
        return token :: more
    else tokensFrom inner (index + 1)
termination_by (Text.utf8 inner).length - index
decreasing_by
  all_goals
    obtain ⟨hlt, -⟩ := List.getElem?_eq_some_iff.1 _h
    omega

theorem tokensFrom_of_none {inner : Text} {index : Nat} (h : (Text.utf8 inner)[index]? = none) :
    tokensFrom inner index = .ok [] := by
  rw [tokensFrom]
  split
  · rfl
  · next h' => exact absurd (h.symm.trans h') (Option.some_ne_none _).symm

theorem tokensFrom_of_other {inner : Text} {index : Nat} {b : UInt8}
    (h : (Text.utf8 inner)[index]? = some b) (hb : ¬ IsQuote b) :
    tokensFrom inner index = tokensFrom inner (index + 1) := by
  rw [tokensFrom]
  split
  · next h' => exact absurd (h.symm.trans h') (Option.some_ne_none _)
  · next h' =>
    obtain rfl := Option.some.inj (h.symm.trans h')
    rw [if_neg hb]

theorem tokensFrom_of_quote {inner : Text} {index : Nat} {b : UInt8}
    (h : (Text.utf8 inner)[index]? = some b) (hb : IsQuote b) :
    tokensFrom inner index =
      match ((Text.utf8 inner).drop (index + 1)).findIdx? (· == b) with
      | none => .ok []
      | some length => do
        let token ← slice inner (index + 1) (index + 1 + length)
        let more ← tokensFrom inner (index + 1 + length + 1)
        return token :: more := by
  have hrest : bytesFrom (Text.utf8 inner) (index + 1) = .ok ((Text.utf8 inner).drop (index + 1)) := by
    obtain ⟨hlt, -⟩ := List.getElem?_eq_some_iff.1 h
    rw [bytesFrom, if_neg (Nat.not_lt.2 hlt)]
  rw [tokensFrom]
  split
  · next h' => exact absurd (h.symm.trans h') (Option.some_ne_none _)
  · next h' =>
    obtain rfl := Option.some.inj (h.symm.trans h')
    rw [if_pos hb, hrest]
    rfl

/-- Bytes that are no quotes are passed over. -/
theorem tokensFrom_skip {inner : Text} {index n : Nat}
    (h : ∀ k < n, ∃ b, (Text.utf8 inner)[index + k]? = some b ∧ ¬ IsQuote b) :
    tokensFrom inner index = tokensFrom inner (index + n) := by
  induction n with
  | zero => rfl
  | succ n ih =>
    obtain ⟨b, hb, hquote⟩ := h n (Nat.lt_succ_self n)
    rw [ih fun k hk => h k (Nat.lt_succ_of_lt hk), tokensFrom_of_other hb hquote, Nat.add_assoc]

theorem tokensFrom_unclosed {q : Char} {t soFar : Text} (h : q ∉ t) :
    Fixture.tokensFrom (some (q, soFar)) t = [] := by
  induction t generalizing soFar with
  | nil => rfl
  | cons c t ih =>
    rw [List.mem_cons, not_or] at h
    rw [Fixture.tokensFrom, if_neg (Ne.symm h.1), ih h.2]

theorem findIdx?_utf8_of_not_mem {q : Char} (hq : Single q) {t : Text} (h : q ∉ t) :
    (Text.utf8 t).findIdx? (· == octet q) = none := by
  rw [List.findIdx?_eq_none_iff]
  intro b hb
  rw [beq_eq_false_iff_ne]
  rintro rfl
  exact h ((Text.octet_mem_utf8_iff hq).1 hb)

/-- The quote that ends a token is found behind the bytes of the token. -/
theorem findIdx?_utf8_append {q : Char} (hq : Single q) {t : Text} (h : q ∉ t) (x : Text) :
    (Text.utf8 (t ++ q :: x)).findIdx? (· == octet q) = some (byteLength t) := by
  rw [Text.utf8_append, List.findIdx?_append, findIdx?_utf8_of_not_mem hq h,
    Text.utf8_cons_of_single hq, List.findIdx?_cons, Text.length_utf8]
  simp

/-- No byte of a character that is no quote is one. -/
theorem tokensFrom_cons {c : Char} (hc : c ≠ '\'' ∧ c ≠ '"') (a b : Text) :
    tokensFrom (a ++ c :: b) (byteLength a) = tokensFrom (a ++ c :: b) (byteLength a + c.utf8Size) := by
  refine tokensFrom_skip fun k hk => ?_
  have hlt : k < (String.utf8EncodeChar c).length := by rwa [String.length_utf8EncodeChar]
  refine ⟨(String.utf8EncodeChar c)[k], ?_, ?_⟩
  · rw [Text.getElem?_utf8, Text.utf8_cons, List.getElem?_append_left hlt, List.getElem?_eq_getElem hlt]
  · have hmem := List.getElem_mem hlt
    rintro (h | h)
    · exact hc.1 ((Text.octet_mem_utf8EncodeChar_iff (by decide)).1 (h ▸ hmem)).symm
    · exact hc.2 ((Text.octet_mem_utf8EncodeChar_iff (by decide)).1 (h ▸ hmem)).symm

/-- A quote begins a token if the same quote follows. -/
theorem tokensFrom_cons_quote {c : Char} (hc : c = '\'' ∨ c = '"') (a rest : Text) :
    tokensFrom (a ++ c :: rest) (byteLength a) =
      match (Text.utf8 rest).findIdx? (· == octet c) with
      | none => .ok []
      | some length => do
        let token ← slice (a ++ c :: rest) (byteLength a + 1) (byteLength a + 1 + length)
        let more ← tokensFrom (a ++ c :: rest) (byteLength a + 1 + length + 1)
        return token :: more := by
  have hsingle : Single c := by rcases hc with rfl | rfl <;> decide
  have hquote : IsQuote (octet c) := by rcases hc with rfl | rfl <;> decide
  have hbyte : (Text.utf8 (a ++ c :: rest))[byteLength a]? = some (octet c) := by
    have hfirst := Text.getElem?_utf8 a (c :: rest) 0
    rwa [Nat.add_zero, Text.utf8_cons_of_single hsingle, List.getElem?_cons_zero] at hfirst
  have hbehind : (Text.utf8 (a ++ c :: rest)).drop (byteLength a + 1) = Text.utf8 rest := by
    rw [← List.drop_drop, Text.drop_utf8_append, Text.utf8_cons_of_single hsingle]
    rfl
  rw [tokensFrom_of_quote hbyte hquote, hbehind]

/-- A token is cut out between its quotes. -/
theorem tokensFrom_append_token {c : Char} (hc : c = '\'' ∨ c = '"') {token : Text} (h : c ∉ token)
    (a more : Text) : tokensFrom (a ++ c :: (token ++ c :: more)) (byteLength a) =
      (tokensFrom (a ++ c :: (token ++ [c]) ++ more) (byteLength (a ++ c :: (token ++ [c])))).map
        (token :: ·) := by
  have hsingle : Single c := by rcases hc with rfl | rfl <;> decide
  have htext : a ++ c :: (token ++ [c]) ++ more = a ++ c :: (token ++ c :: more) := by simp
  have hnext : byteLength a + 1 + byteLength token + 1 = byteLength (a ++ c :: (token ++ [c])) := by
    rw [Text.byteLength_append, byteLength, byteLength_concat, hsingle]
    omega
  rw [tokensFrom_cons_quote hc, findIdx?_utf8_append hsingle h, htext, ← hnext]
  simp only [slice_behind hsingle a token (c :: more)]
  cases tokensFrom (a ++ c :: (token ++ c :: more)) (byteLength a + 1 + byteLength token + 1) <;> rfl

/-- The tokens are those that are read character by character. -/
theorem tokensFrom_append (a b : Text) :
    tokensFrom (a ++ b) (byteLength a) = .ok (Fixture.tokensFrom none b) := by
  -- The induction is on the length, since a token is read at once.
  induction hn : b.length using Nat.strongRecOn generalizing a b with
  | ind n ih =>
    subst hn
    cases b with
    | nil =>
      refine tokensFrom_of_none ?_
      have hend := Text.getElem?_utf8 a [] 0
      rwa [Nat.add_zero] at hend
    | cons c rest =>
      by_cases hc : c = '\'' ∨ c = '"'
      · by_cases hmem : c ∈ rest
        · obtain ⟨token, more, rfl, hclosed⟩ := List.eq_append_cons_of_mem hmem
          rw [tokensFrom_append_token hc hclosed, ih more.length (by simp; omega) _ more rfl,
            Fixture.tokensFrom_enclosed hc hclosed]
          rfl
        · have hsingle : Single c := by rcases hc with rfl | rfl <;> decide
          have hopen : (c = '\'' || c = '"') = true := by rcases hc with rfl | rfl <;> rfl
          rw [tokensFrom_cons_quote hc, findIdx?_utf8_of_not_mem hsingle hmem, Fixture.tokensFrom,
            if_pos hopen, tokensFrom_unclosed hmem]
      · rw [not_or] at hc
        have hrest := ih rest.length (by simp) (a ++ [c]) rest rfl
        have hopen : ¬ (c = '\'' || c = '"') = true := by simp [hc.1, hc.2]
        rw [List.append_assoc] at hrest
        rw [tokensFrom_cons hc, ← byteLength_concat, Fixture.tokensFrom, if_neg hopen]
        exact hrest

theorem tokensFrom_zero (t : Text) : tokensFrom t 0 = .ok (Fixture.tokens t) := tokensFrom_append [] t

/-! ### Tokens of a themed call -/

/-- The offsets of the opening brackets of a text that begins at an offset. -/
def bracketsFrom : Nat → Text → List Nat
  | _, [] => []
  | offset, c :: t =>
    if c = '[' then offset :: bracketsFrom (offset + c.utf8Size) t
    else bracketsFrom (offset + c.utf8Size) t

/-- Where the bracket at an offset is closed. -/
def bracketClose? (t : Text) (start : Nat) : Option Nat :=
  closingAt? Marks.bytes Brackets.square.utf8 (Text.utf8 t) start

/-- The tokens of the first array that ends at an offset. -/
def arrayTokens (arguments : Text) (arrayClose : Nat) : Except Fault (List Text) :=
  match (bracketsFrom 0 arguments).find? (bracketClose? arguments · = some arrayClose) with
  | none => .ok []
  | some arrayOpen => do
    let inside ← slice arguments (arrayOpen + 1) arrayClose
    tokensFrom inside 0

/-- The tokens of the array that is the last of some arguments. -/
def lastArrayTokens (arguments : Text) : Except Fault (List Text) :=
  let tail := Text.trimEnd (Text.dropEndWhile (· = ',') (Text.trimEnd arguments))
  if tail.getLast? = some ']' then do
    let arrayClose ← difference (byteLength tail) 1
    arrayTokens arguments arrayClose
  else .ok []

/-- The tokens of a themed call, given the offset of its parenthesis. -/
def themedTokens (t : Text) (parenOpen : Nat) : Except Fault (List Text) :=
  match closingAt? Marks.bytes Brackets.round.utf8 (Text.utf8 t) parenOpen with
  | none => .ok []
  | some parenClose => do
    let arguments ← slice t (parenOpen + 1) parenClose
    lastArrayTokens arguments

theorem le_of_mem_bracketsFrom {offset i : Nat} {t : Text} (h : i ∈ bracketsFrom offset t) :
    offset ≤ i := by
  induction t generalizing offset with
  | nil => exact absurd h List.not_mem_nil
  | cons c t ih =>
    rw [bracketsFrom] at h
    split at h
    · rcases List.mem_cons.1 h with rfl | h
      · exact Nat.le_refl _
      · exact Nat.le_of_add_right_le (ih h)
    · exact Nat.le_of_add_right_le (ih h)

theorem lt_of_bracketClose? {t : Text} {start stop : Nat} (h : bracketClose? t start = some stop) :
    start < stop := by
  rw [bracketClose?, closingAt?] at h
  split at h
  · exact absurd h.symm (Option.some_ne_none stop)
  · split at h
    · exact absurd h.symm (Option.some_ne_none stop)
    · obtain ⟨n, -, rfl⟩ := Option.map_eq_some_iff.1 h
      omega

theorem bracketClose?_append (a b : Text) : bracketClose? (a ++ '[' :: b) (byteLength a) =
    (closing? Marks.chars .square .plain 0 b).map fun n => byteLength a + 1 + byteLength (b.take n) :=
  closingAt?_utf8 singles_chars singles_square (by decide) a b

/-- The bracket at an offset is closed at the offset of the character that closes it. -/
theorem bracketClose?_eq_some_iff (a : Text) {b : Text} {distance : Nat} (h : distance < b.length) :
    bracketClose? (a ++ '[' :: b) (byteLength a) =
        some (byteLength a + 1 + byteLength (b.take distance)) ↔
      closing? Marks.chars .square .plain 0 b = some distance := by
  rw [bracketClose?_append, Option.map_eq_some_iff]
  constructor
  · rintro ⟨n, hn, hbytes⟩
    rwa [(byteLength_take_inj (closing?_lt_length hn) h).1 (Nat.add_left_cancel hbytes)] at hn
  · exact fun hclose => ⟨distance, hclose, rfl⟩

/-- The first bracket is the one looked for, or it is passed over. -/
theorem find?_bracketsFrom_cons (p : Text) {c : Char} {x : Text} {distance : Nat}
    (h : distance < x.length) :
    let stop := byteLength p + c.utf8Size + byteLength (x.take distance)
    (bracketsFrom (byteLength p) (c :: x)).find? (bracketClose? (p ++ c :: x) · = some stop) =
      if c = '[' ∧ closing? Marks.chars .square .plain 0 x = some distance then some (byteLength p)
      else (bracketsFrom (byteLength p + c.utf8Size) x).find?
        (bracketClose? (p ++ c :: x) · = some stop) := by
  intro stop
  rw [bracketsFrom]
  by_cases hc : c = '['
  · subst hc
    have hclose : bracketClose? (p ++ '[' :: x) (byteLength p) = some stop ↔ _ :=
      bracketClose?_eq_some_iff p h
    rw [if_pos rfl, List.find?_cons]
    simp only [hclose, true_and]
    by_cases hfound : closing? Marks.chars .square .plain 0 x = some distance
    · rw [if_pos hfound, decide_eq_true hfound]
    · rw [if_neg hfound, decide_eq_false hfound]
  · rw [if_neg hc, if_neg fun h => hc h.1]

/-- The array that ends at an offset is the one that ends at the character. -/
theorem find?_bracketsFrom (p x : Text) {distance : Nat} (hlt : distance < x.length) :
    let found := (bracketsFrom (byteLength p) x).find?
      (bracketClose? (p ++ x) · = some (byteLength p + byteLength (x.take distance)))
    (∃ u v n, x = u ++ '[' :: v ∧ found = some (byteLength p + byteLength u) ∧
        byteLength (x.take distance) = byteLength u + 1 + byteLength (v.take n) ∧
        Fixture.arrayEndingAt? distance x = some (v.take n)) ∨
      found = none ∧ Fixture.arrayEndingAt? distance x = none := by
  induction x generalizing p distance with
  | nil => exact absurd hlt (Nat.not_lt_zero distance)
  | cons c x ih =>
    cases distance with
    | zero =>
      -- A bracket closes behind the place where it stands.
      refine .inr ⟨List.find?_eq_none.2 fun i hi h => ?_, rfl⟩
      have hstart := le_of_mem_bracketsFrom hi
      have hstop := lt_of_bracketClose? (of_decide_eq_true h)
      rw [List.take_zero, byteLength] at hstop
      omega
    | succ distance =>
      have hlt' : distance < x.length := Nat.lt_of_succ_lt_succ hlt
      have hrest := ih (p ++ [c]) hlt'
      rw [byteLength_concat, List.append_assoc, List.singleton_append] at hrest
      rw [List.take_succ_cons, byteLength, ← Nat.add_assoc]
      simp only [find?_bracketsFrom_cons p hlt', Fixture.arrayEndingAt?]
      split
      · next hopen =>
        obtain ⟨rfl, -⟩ := hopen
        refine .inl ⟨[], x, distance, rfl, ?_, ?_, rfl⟩
        · rw [byteLength, Nat.add_zero]
        · rw [byteLength, Nat.zero_add]
          rfl
      · rcases hrest with ⟨u, v, n, rfl, hfound, hbytes, hinside⟩ | hnone
        · refine .inl ⟨c :: u, v, n, rfl, ?_, ?_, hinside⟩
          · rw [hfound, byteLength, Nat.add_assoc]
          · rw [hbytes, byteLength]
            omega
        · exact .inr hnone

theorem prefix_dropEndWhile (p : Char → Bool) (t : Text) : Text.dropEndWhile p t <+: t := by
  rw [Text.dropEndWhile, ← List.reverse_suffix, List.reverse_reverse]
  exact List.dropWhile_suffix p

theorem arrayTokens_eq (arguments : Text) (distance : Nat) (hlt : distance < arguments.length) :
    arrayTokens arguments (byteLength (arguments.take distance)) =
      .ok (((Fixture.arrayEndingAt? distance arguments).map Fixture.tokens).getD []) := by
  have hfound := find?_bracketsFrom [] arguments hlt
  simp only [List.nil_append, byteLength, Nat.zero_add] at hfound
  rw [arrayTokens]
  rcases hfound with ⟨u, v, n, rfl, hfound, hstop, harray⟩ | ⟨hfound, harray⟩
  · have hslice := slice_behind (c := '[') (by decide) u (v.take n) (v.drop n)
    rw [← hstop, List.take_append_drop] at hslice
    rw [hfound, harray]
    show (do
      let inside ← slice (u ++ '[' :: v) (byteLength u + 1) _
      tokensFrom inside 0) = _
    rw [hslice]
    exact tokensFrom_zero (v.take n)
  · rw [hfound, harray]
    rfl

theorem lastArrayTokens_eq (arguments : Text) : lastArrayTokens arguments =
    .ok (((Fixture.lastArray? arguments).map Fixture.tokens).getD []) := by
  have hprefix : Text.trimEnd (Text.dropEndWhile (· = ',') (Text.trimEnd arguments)) <+: arguments :=
    (prefix_dropEndWhile _ _).trans ((prefix_dropEndWhile _ _).trans (prefix_dropEndWhile _ _))
  rw [lastArrayTokens, Fixture.lastArray?]
  generalize Text.trimEnd (Text.dropEndWhile (· = ',') (Text.trimEnd arguments)) = tail at hprefix
  by_cases hlast : tail.getLast? = some ']'
  · obtain ⟨front, rfl⟩ := List.getLast?_eq_some_iff.1 hlast
    obtain ⟨behind, rfl⟩ := hprefix
    rw [List.append_assoc, List.singleton_append]
    have htake : (front ++ ']' :: behind).take front.length = front := List.take_left
    have htokens := arrayTokens_eq (front ++ ']' :: behind) front.length (by simp)
    have hbytes : byteLength (front ++ [']']) = 1 + byteLength front := by
      rw [Text.byteLength_append, Nat.add_comm]
      rfl
    have hlength : (front ++ [']']).length - 1 = front.length := by simp
    rw [htake] at htokens
    simp only [if_pos hlast, hbytes, difference_add, hlength]
    exact htokens
  · simp only [if_neg hlast]
    rfl

/-- The tokens of a themed call are those that are read character by character. -/
theorem themedTokens_append (a b : Text) :
    themedTokens (a ++ '(' :: b) (byteLength a) = .ok (Fixture.themedTokens b) := by
  have hclose : closingAt? Marks.bytes Brackets.round.utf8 (Text.utf8 (a ++ '(' :: b)) (byteLength a) = _ :=
    closingAt?_utf8 singles_chars singles_round (by decide) a b
  rw [themedTokens, Fixture.themedTokens, hclose]
  cases closing? Marks.chars .round .plain 0 b with
  | none => rfl
  | some n =>
    have hslice := slice_behind (c := '(') (by decide) a (b.take n) (b.drop n)
    rw [List.take_append_drop] at hslice
    simp only [Option.map_some]
    show (do
      let arguments ← slice (a ++ '(' :: b) (byteLength a + 1) (byteLength a + 1 + byteLength (b.take n))
      lastArrayTokens arguments) = _
    rw [hslice]
    exact lastArrayTokens_eq (b.take n)

/-! ### Bounds of an array -/

theorem byteLength_opened (before inside : Text) :
    byteLength (before ++ '[' :: inside) = byteLength before + 1 + byteLength inside := by
  rw [Text.byteLength_append, byteLength, Nat.add_assoc]
  rfl

theorem bracketClose?_tokenArray (before behind : Text) (a : TokenArray) :
    bracketClose? (before ++ '[' :: (a.text ++ ']' :: behind)) (byteLength before) =
      some (byteLength (before ++ '[' :: a.text)) := by
  rw [bracketClose?_append, Fixture.closing?_tokenArray, Option.map_some, List.take_left, byteLength_opened]

theorem tokens_between_brackets (before behind : Text) (a : TokenArray) :
    (do
      let inside ← slice (before ++ '[' :: (a.text ++ ']' :: behind)) (byteLength before + 1)
        (byteLength (before ++ '[' :: a.text))
      tokensFrom inside 0) = .ok a.tokens := by
  rw [byteLength_opened, slice_behind (by decide)]
  show tokensFrom a.text 0 = .ok a.tokens
  rw [tokensFrom_zero, Fixture.tokens_tokenArray]

/-- **The bounds of an array and its tokens agree**: wherever an array stands, the bracket found
to close it is the one behind its last separator, and the tokens read between the brackets are
those that were written, in order. So it is for characters and for offsets. -/
theorem array_bounds_and_tokens (a : TokenArray) (before behind : Text) :
    let t := before ++ '[' :: (a.text ++ ']' :: behind)
    let stop := byteLength (before ++ '[' :: a.text)
    closingAt? (Marks.bytes.under .skipStrings) Brackets.square.utf8 (Text.utf8 t)
        (byteLength before) = some stop ∧
      (do
        let inside ← slice t (byteLength before + 1) stop
        tokensFrom inside 0) = .ok a.tokens ∧
      closing? Marks.chars .square .plain 0 (a.text ++ ']' :: behind) = some a.text.length ∧
      Fixture.tokens a.text = a.tokens := by
  intro t stop
  exact ⟨bracketClose?_tokenArray before behind a, tokens_between_brackets before behind a,
    Fixture.closing?_tokenArray a behind, Fixture.tokens_tokenArray a⟩

/-- Tokens with foreign quotes, brackets, a line break and backslashes, one of them written twice. -/
theorem array_bounds_and_tokens_foreign_marks :
    let t := "é(['\\\"\\\\',\n\"]'\x60\n\\é[\",\n'\\\"\\\\',\n])[]".toList
    let tokens := ["\\\"\\\\".toList, "]'\x60\n\\é[".toList, "\\\"\\\\".toList]
    closingAt? (Marks.bytes.under .skipStrings) Brackets.square.utf8 (Text.utf8 t) 3 = some 32 ∧
      (do
        let inside ← slice t 4 32
        tokensFrom inside 0) = .ok tokens := by
  intro t tokens
  let comma : Fixture.Separator := ⟨",\n".toList, by decide, by decide⟩
  let backslashes : Fixture.QuotedToken := ⟨'\'', "\\\"\\\\".toList, by decide, by decide, by decide⟩
  let foreign : Fixture.QuotedToken := ⟨'"', "]'\x60\n\\é[".toList, by decide, by decide, by decide⟩
  let a : TokenArray :=
    ⟨⟨[], by decide, by decide⟩, [(backslashes, comma), (foreign, comma), (backslashes, comma)]⟩
  have htext : "é(".toList ++ '[' :: (a.text ++ ']' :: ")[]".toList) = t := by decide
  have hstart : byteLength "é(".toList = 3 := by decide
  have hstop : byteLength ("é(".toList ++ '[' :: a.text) = 32 := by decide
  obtain ⟨hclose, htokens, -, -⟩ := array_bounds_and_tokens a "é(".toList ")[]".toList
  rw [htext, hstart, hstop] at hclose htokens
  exact ⟨hclose, htokens⟩

end StyleSnapshot.Offsets
