import StyleSnapshot.Fixture.Case
import StyleSnapshot.Proofs.Fixture.Arrays
import StyleSnapshot.Proofs.Fixture.Places
import StyleSnapshot.Proofs.Fixture.Rendering

/-! Reading one rendered assertion.

An assertion is read from its anchor on and by what it is made of: the call stands right
behind the anchor, the array is scanned quotation by quotation, and the marker stands
right behind the array, so that neither window matters. `reading?_call` says that the
tokens and the expectation come back, whatever follows. -/
namespace StyleSnapshot.Fixture.Rendering

/-! ### The array -/

/-- A token of a fixture between its quotes. -/
def Token.inQuotes (t : Token) : QuotedToken where
  quote := '\''
  token := t.text
  isQuote := .inl rfl
  closed := fun h => (t.plain _ h).1 rfl
  unhidden := by rw [Text.backslashesAtEnd_of_not_mem fun h => (t.plain _ h).2.1 rfl]

def nothing : Separator where
  text := []
  unquoted := fun _ h => absurd h List.not_mem_nil
  bare := ⟨List.not_mem_nil, List.not_mem_nil⟩

theorem comma_separates :
    (∀ c ∈ ", ".toList, c ∉ Marks.chars.quotes) ∧ '[' ∉ ", ".toList ∧ ']' ∉ ", ".toList := by
  decide

def comma : Separator := ⟨", ".toList, comma_separates.1, comma_separates.2⟩

/-- The tokens, each with what stands behind it. -/
def entries : List Token → List (QuotedToken × Separator)
  | [] => []
  | [t] => [(t.inQuotes, nothing)]
  | t :: more => (t.inQuotes, comma) :: entries more

theorem array_eq (ts : List Token) : array ts = TokenArray.text ⟨nothing, entries ts⟩ := by
  show array ts = (entries ts).flatMap TokenArray.entryText
  induction ts with
  | nil => rfl
  | cons t more ih =>
    cases more with
    | nil =>
      show t.quoted = TokenArray.entryText (t.inQuotes, nothing) ++ []
      rw [List.append_nil]
      rfl
    | cons u more =>
      have hentry : TokenArray.entryText (t.inQuotes, comma) = t.quoted ++ ", ".toList := by
        simp [TokenArray.entryText, Token.inQuotes, Token.quoted, comma]
      show t.quoted ++ ", ".toList ++ array (u :: more) =
        TokenArray.entryText (t.inQuotes, comma) ++ (entries (u :: more)).flatMap TokenArray.entryText
      rw [ih, hentry]

theorem closing?_array (ts : List Token) (x : Text) :
    closing? Marks.chars .square .plain 0 (array ts ++ ']' :: x) = some (array ts).length := by
  rw [array_eq, closing?_tokenArray]

/-- The tokens of an array come back. -/
theorem tokens_array (ts : List Token) : tokens (array ts) = ts.map (·.text) := by
  rw [array_eq, tokens_tokenArray]
  show (entries ts).map (·.1.token) = ts.map (·.text)
  induction ts with
  | nil => rfl
  | cons t more ih =>
    cases more with
    | nil => rfl
    | cons u more => exact congrArg (t.text :: ·) ih

/-! ### The call -/

theorem clear_tokenCall (x : Text) : Text.Clear tokenCall? none "expect(await ".toList x :=
  ⟨rfl, rfl, rfl, rfl, rfl, rfl, rfl, rfl, rfl, rfl, rfl, rfl, rfl, trivial⟩

theorem clear_themedCall (x : Text) : Text.Clear themedCall? none opening x :=
  ⟨rfl, rfl, rfl, rfl, rfl, rfl, rfl, rfl, rfl, rfl, rfl, rfl, rfl, rfl, rfl, rfl, rfl, rfl, trivial⟩

/-- The array call of an assertion comes before any other call. -/
theorem nearestCall?_opening (x : Text) :
    nearestCall? 50 (opening ++ x) = some ⟨.tokenArray, 13, 18⟩ := by
  have harray : callWithin? 50 .tokenArray tokenCall? (opening ++ x) = some ⟨.tokenArray, 13, 18⟩ := by
    have hfirst : firstPlace? tokenCall? none (opening ++ x) = some (13, 5) := by
      have hsplit : opening ++ x = "expect(await ".toList ++ ("run([".toList ++ x) := rfl
      have hcall : firstPlace? tokenCall? (some ' ') ("run([".toList ++ x) = some (0, 5) :=
        firstPlace?_of_some rfl
      have hbefore : Text.endOf none "expect(await ".toList = some ' ' := rfl
      rw [hsplit, firstPlace?_clear (clear_tokenCall _), hbefore, hcall]
      rfl
    have hnear : Text.byteLength (List.take 13 (opening ++ x)) ≤ 50 := by
      have htake : List.take 13 (opening ++ x) = "expect(await ".toList := rfl
      rw [htake]
      decide +kernel
    rw [callWithin?, firstPlaceWithin?_eq, hfirst, Option.filter_some, if_pos (decide_eq_true hnear)]
    rfl
  have hthemed : ∀ call, callWithin? 50 .themed themedCall? (opening ++ x) = some call →
      18 ≤ call.start := by
    intro call hcall
    obtain ⟨found, hfound, rfl⟩ := Option.map_eq_some_iff.1 hcall
    rw [firstPlaceWithin?_eq] at hfound
    have hplace := (Option.filter_eq_some_iff.1 hfound).1
    rw [firstPlace?_clear (clear_themedCall x)] at hplace
    obtain ⟨found', -, rfl⟩ := Option.map_eq_some_iff.1 hplace
    exact Nat.le_add_right 18 _
  rw [nearestCall?, harray]
  cases hc : callWithin? 50 .themed themedCall? (opening ++ x) with
  | none => rfl
  | some call =>
    have hstart : ¬ call.start < 13 := by
      have := hthemed call hc
      omega
    simp only [hstart, if_false]

/-! ### The marker -/

theorem anchor?_of_ne {c : Char} (h : c ≠ 'e') (before : Option Char) (t : Text) :
    anchor? before (c :: t) = none := by
  have hafter : Text.after? anchorText (c :: t) = none := if_neg (Ne.symm h)
  exact anchor?_of_after? hafter before

/-- No anchor begins in text without an `e`. -/
theorem clear_anchor {t : Text} (h : 'e' ∉ t) (before : Option Char) (x : Text) :
    Text.Clear anchor? before t x :=
  Text.clear_of_head (fun _ hc => anchor?_of_ne fun he => h (he ▸ hc)) before x

theorem clear_anchor_toMatch (before : Option Char) (x : Text) :
    Text.Clear anchor? before toMatch x := by
  have hsplit : toMatch = ")).toMatchInlin".toList ++ ('e' :: "Snapshot(\x60".toList) := rfl
  have hafter : Text.after? anchorText ('e' :: "Snapshot(\x60".toList ++ x) = none := rfl
  rw [hsplit, Text.clear_append]
  exact ⟨clear_anchor (by decide) _ _, anchor?_of_after? hafter _, clear_anchor (by decide) _ _⟩

theorem takeBytes_append {n : Nat} {p : Text} (h : Text.byteLength p ≤ n) (x : Text) :
    Text.takeBytes n (p ++ x) = p ++ Text.takeBytes (n - Text.byteLength p) x := by
  induction p generalizing n with
  | nil => rfl
  | cons c p ih =>
    simp only [Text.byteLength] at h ⊢
    rw [List.cons_append, Text.takeBytes, if_pos (by omega), ih (by omega), Nat.sub_add_eq,
      List.cons_append]

/-- Neither the window nor the next anchor cuts off what stands right behind the array. -/
theorem markerStretch_append {window : Nat} {p x : Text} (hlen : Text.byteLength p ≤ window)
    (hclear : Text.Clear anchor? (some ']') p x) :
    ∃ y, markerStretch window (p ++ x) = p ++ y := by
  rw [markerStretch, takeBytes_append hlen, firstPlace?_clear hclear]
  cases firstPlace? anchor? (Text.endOf (some ']') p) x with
  | none => exact ⟨_, rfl⟩
  | some found => exact ⟨_, List.take_length_add_append _⟩

theorem firstMarker?_toBeEmpty (y : Text) : firstMarker? (toBeEmpty ++ y) = some (.empty 14) := by
  have hlength : emptyMarker? (".toEqual('')".toList ++ y) = some 12 := by
    have hafter : afterEmptyMarker? (".toEqual('')".toList ++ y) = some y := rfl
    rw [emptyMarker?, hafter, Option.map_some, List.length_append, Nat.add_sub_cancel]
    rfl
  have hempty : firstPlace? (fun _ => emptyMarker?) none (toBeEmpty ++ y) = some (2, 12) := by
    have hclear : Text.Clear (fun _ => emptyMarker?) none "))".toList (".toEqual('')".toList ++ y) :=
      ⟨rfl, rfl, trivial⟩
    have hfirst : firstPlace? (fun _ => emptyMarker?) (some ')') (".toEqual('')".toList ++ y) =
        some (0, 12) := firstPlace?_of_some hlength
    have := firstPlace?_clear hclear
    rwa [show Text.endOf none "))".toList = some ')' from rfl, hfirst] at this
  have hsnapshot : Text.Clear (fun _ => snapshotMarker?) none toBeEmpty y :=
    ⟨rfl, rfl, rfl, rfl, rfl, rfl, rfl, rfl, rfl, rfl, rfl, rfl, rfl, rfl, trivial⟩
  rw [firstMarker?, hempty, firstPlace?_clear hsnapshot]
  cases firstPlace? (fun _ => snapshotMarker?) (Text.endOf none toBeEmpty) y with
  | none => rfl
  | some found =>
    have hlt : 2 < toBeEmpty.length + found.1 := by
      have : toBeEmpty.length = 14 := rfl
      omega
    simp only [Option.map_some, hlt, if_true]

theorem firstMarker?_toMatch (y : Text) : firstMarker? (toMatch ++ y) = some (.snapshot 26) := by
  have hsnapshot : firstPlace? (fun _ => snapshotMarker?) none (toMatch ++ y) = some (2, 24) := rfl
  have hempty : Text.Clear (fun _ => emptyMarker?) none toMatch y :=
    ⟨rfl, rfl, rfl, rfl, rfl, rfl, rfl, rfl, rfl, rfl, rfl, rfl, rfl, rfl, rfl, rfl, rfl, rfl, rfl,
      rfl, rfl, rfl, rfl, rfl, rfl, rfl, trivial⟩
  rw [firstMarker?, hsnapshot, firstPlace?_clear hempty]
  cases firstPlace? (fun _ => emptyMarker?) (Text.endOf none toMatch) y with
  | none => rfl
  | some found =>
    have hlt : ¬ toMatch.length + found.1 < 2 := by
      have : toMatch.length = 26 := rfl
      omega
    simp only [Option.map_some, hlt, if_false]

/-! ### The expectation -/

theorem unquote_body (s : Css) : Snapshot.unquote (Snapshot.unescape s.body) = s.text := by
  have hbody : Snapshot.unescape s.body = '\n' :: '"' :: (s.text ++ ['"', '\n']) := by
    have hfirst (y : Text) : Snapshot.unescape ('\n' :: '"' :: y) = '\n' :: '"' :: Snapshot.unescape y := by
      cases y <;> rfl
    rw [Css.body, List.cons_append, List.cons_append, hfirst, unescape_escape]
    rfl
  have htrim : Text.trim ('\n' :: '"' :: (s.text ++ ['"', '\n'])) = '"' :: (s.text ++ ['"']) := by
    have hstart : Text.trimStart ('\n' :: '"' :: (s.text ++ ['"', '\n'])) =
        '"' :: (s.text ++ ['"']) ++ ['\n'] := by
      have hnewline : Text.trimStart ('\n' :: '"' :: (s.text ++ ['"', '\n'])) =
          Text.trimStart ('"' :: (s.text ++ ['"', '\n'])) :=
        Text.trimStart_append (w := ['\n']) (fun c hc => by rw [List.mem_singleton.1 hc]; decide) _
      rw [hnewline, Text.trimStart_cons_of_not_blank (by decide)]
      simp
    have hquote : isBlank '"' = false := by decide
    have hnewline : isBlank '\n' = true := by decide
    rw [Text.trim, hstart, Text.trimEnd, Text.dropEndWhile]
    simp [hquote, hnewline]
  rw [hbody, Snapshot.unquote, htrim]
  simp

/-- The literal of a snapshot ends where it was made to end. -/
theorem closingQuote?_body (s : Css) (rest : Text) :
    closingQuote? '\\' '\x60' false (s.body ++ '\x60' :: rest) = some s.body.length := by
  have hfirst (y : Text) : closingQuote? '\\' '\x60' false ('\n' :: '"' :: y) =
      ((closingQuote? '\\' '\x60' false y).map (· + 1)).map (· + 1) := rfl
  have hlast : closingQuote? '\\' '\x60' false ('"' :: '\n' :: '\x60' :: rest) = some 2 := rfl
  have hbody : s.body ++ '\x60' :: rest =
      '\n' :: '"' :: (escape s.text ++ '"' :: '\n' :: '\x60' :: rest) := by
    simp [Css.body]
  have hlength : s.body.length = (escape s.text).length + 2 + 1 + 1 := by
    simp [Css.body]
  rw [hbody, hfirst, closingQuote?_escape, hlast, hlength]
  rfl

/-- What a rendered snapshot expects is its stylesheet. -/
theorem ofSnapshot_body (s : Css) :
    Expectation.ofSnapshot (Snapshot.unescape s.body) = .css s.text := by
  have hstrip : Snapshot.stripReferences none s.text = s.text := by
    have := Snapshot.stripReferences_clear s.clear
    rwa [Snapshot.stripReferences_nil, List.append_nil] at this
  rw [Expectation.ofSnapshot, unquote_body, s.trimmed, if_neg s.ne, Snapshot.sanitize, unquote_body,
    hstrip, s.trimmed]

/-- The marker behind an array tells the expectation, and reading goes on behind it. -/
theorem expectation?_marker (a : Assertion) (rest : Text) :
    (do let m ← firstMarker? (markerStretch 80 (marker a.css ++ rest))
        expectation? (marker a.css ++ rest) m) = some (a.expectation, (marker a.css).length) := by
  rw [Assertion.expectation]
  cases a.css with
  | none =>
    obtain ⟨y, hy⟩ := @markerStretch_append 80 toBeEmpty rest (by decide +kernel)
      (clear_anchor (by decide) _ _)
    rw [marker, hy, firstMarker?_toBeEmpty]
    rfl
  | some s =>
    have hmarker : marker (some s) ++ rest = toMatch ++ (s.body ++ '\x60' :: rest) := by
      simp [marker]
    obtain ⟨y, hy⟩ := @markerStretch_append 80 toMatch (s.body ++ '\x60' :: rest) (by decide +kernel)
      (clear_anchor_toMatch _ _)
    have hinside : (toMatch ++ (s.body ++ '\x60' :: rest)).drop 26 = s.body ++ '\x60' :: rest := rfl
    rw [hmarker, hy, firstMarker?_toMatch]
    simp only [Option.bind_eq_bind, Option.bind_some, expectation?, hinside, closingQuote?_body,
      Option.map_some, List.take_left, ofSnapshot_body]
    have hlength : (marker (some s)).length = 26 + s.body.length + 1 := by
      have : toMatch.length = 26 := rfl
      simp only [marker, List.length_append, List.length_singleton, this]
    rw [hlength]

/-! ### The assertion -/

/-- A rendered assertion from its anchor up to the end of what is read of it. -/
def Assertion.call (a : Assertion) : Text := opening ++ array a.tokens ++ ']' :: marker a.css

/-- What is read of a rendered assertion that has tokens. -/
def Assertion.reading (a : Assertion) : Reading :=
  ⟨a.expectation, a.tokens.map (·.text), ⟨.tokenArray, 13, 18⟩, a.call.length⟩

theorem reading?_call (a : Assertion) (rest : Text) :
    reading? {} (a.call ++ rest) = if a.tokens = [] then none else some a.reading := by
  have hcall : a.call ++ rest = opening ++ (array a.tokens ++ ']' :: (marker a.css ++ rest)) := by
    simp [Assertion.call]
  have harray : (opening ++ (array a.tokens ++ ']' :: (marker a.css ++ rest))).drop 18 =
      array a.tokens ++ ']' :: (marker a.css ++ rest) := rfl
  have hbehind : (array a.tokens ++ ']' :: (marker a.css ++ rest)).drop ((array a.tokens).length + 1) =
      marker a.css ++ rest := by
    rw [List.drop_append, List.drop_of_length_le (by omega)]
    simp
  have hlength : a.call.length = 18 + ((array a.tokens).length + 1) + (marker a.css).length := by
    have : opening.length = 18 := rfl
    simp only [Assertion.call, List.length_append, List.length_cons, this]
    omega
  have hread : readArray? {} ⟨.tokenArray, 13, 18⟩ (a.call ++ rest) =
      if a.tokens = [] then none else some a.reading := by
    have hmarker := expectation?_marker a rest
    simp only [readArray?, hcall, harray, closing?_array, Option.bind_eq_bind, Option.bind_some,
      List.take_left, tokens_array, List.map_eq_nil_iff, hbehind]
    split
    · rfl
    · obtain ⟨m, hm, hexpectation⟩ := Option.bind_eq_some_iff.1 hmarker
      simp only [hm, hexpectation, Option.bind_some, Assertion.reading, hlength]
  have hnearest : nearestCall? ({} : Windows).proximity (a.call ++ rest) = some ⟨.tokenArray, 13, 18⟩ := by
    rw [hcall]
    exact nearestCall?_opening _
  rw [reading?, hnearest]
  exact hread

end StyleSnapshot.Fixture.Rendering
