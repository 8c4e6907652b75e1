import StyleSnapshot.Proofs.Offsets.Calls
import StyleSnapshot.Proofs.Offsets.Snapshot
import StyleSnapshot.Proofs.Offsets.Tokens

/-! Assertions by offsets.

From an anchor on every place is found from the one before: the call, the end of its array, the
marker behind it and the end of the snapshot. Each of them is told by the text in front of it, so
that what stands between two of them is cut out where it is read character by character, and
reading goes on behind the same text (`extract_append`). -/
namespace StyleSnapshot.Offsets

open Text (byteLength)
open Fixture (Expectation Call Marker Reading Windows)

/-- What an anchor was paired with, and the offset where reading goes on. -/
structure Extracted where
  expectation : Expectation
  tokens : List Text
  resumeAt : Nat
  deriving DecidableEq, Repr

/-- What the body of a snapshot expects. -/
def ofSnapshot (body : Text) : Except Fault Expectation :=
  if Text.trim (Snapshot.unquote body) = [] then .ok .empty else (sanitize body).map .css

/-- The expectation a marker tells, and where it ends. -/
def expectation (t : Text) : MarkerPlace → Except Fault (Option (Expectation × Nat))
  | .empty stop => .ok (some (.empty, stop))
  | .snapshot opening =>
    match closingQuoteAt? Marks.bytes.escape (Text.utf8 t) opening with
    | none => .ok none
    | some close => do
      let raw ← slice t (opening + 1) close
      let expected ← ofSnapshot (Snapshot.unescape raw)
      return some (expected, close + 1)

section Window
variable (limit : Nat) (windows : Windows)

/-- Reads on behind an array with the tokens found. -/
def readMarker (t : Text) (found : List Text) (start : Nat) : Except Fault (Option Extracted) := do
  match ← firstMarker limit windows.lookahead t start with
  | none => return none
  | some marker =>
    let told ← expectation t marker
    return told.map fun told => ⟨told.1, found, told.2⟩

/-- Reads the assertion whose array of tokens is opened at an offset. -/
def readArray (t : Text) (arrayOpen : Nat) : Except Fault (Option Extracted) :=
  match bracketClose? t arrayOpen with
  | none => .ok none
  | some arrayClose => do
    let inside ← slice t (arrayOpen + 1) arrayClose
    let found ← tokensFrom inside 0
    if found = [] then return none else readMarker limit windows t found (arrayClose + 1)

/-- Reads the assertion that a call feeds. -/
def readCall (t : Text) : Invocation → Except Fault (Option Extracted)
  | ⟨.themed, parenOpen⟩ =>
    (themedTokens t parenOpen).map fun found => some ⟨.deferred, found, parenOpen + 1⟩
  | ⟨.tokenArray, arrayOpen⟩ => readArray limit windows t arrayOpen

/-- Reads the assertion whose anchor is at an offset. -/
def extract (t : Text) (anchor : Nat) : Except Fault (Option Extracted) := do
  match ← nearestCall windows.proximity t anchor with
  | none => return none
  | some call => readCall limit windows t call

end Window

theorem ofSnapshot_eq (body : Text) : ofSnapshot body = .ok (.ofSnapshot body) := by
  rw [ofSnapshot, sanitize_eq, Expectation.ofSnapshot]
  split <;> rfl

section Reading
variable (limit : Nat) (windows : Windows)

/-- A snapshot ends at its quote. -/
theorem expectation_snapshot (front rest : Text) :
    expectation (front ++ '\x60' :: rest) (.snapshot (byteLength front)) =
      .ok ((closingQuote? '\\' '\x60' false rest).map fun n =>
        (.ofSnapshot (Snapshot.unescape (rest.take n)),
          byteLength front + byteLength ('\x60' :: rest.take (n + 1)))) := by
  rw [expectation, closingQuoteAt?_utf8 (by decide)]
  cases hclose : closingQuote? '\\' '\x60' false rest with
  | none => rfl
  | some n =>
    have hraw := slice_behind (c := '\x60') (by decide) front (rest.take n) (rest.drop n)
    rw [List.take_append_drop] at hraw
    have hstop : byteLength front + 1 + byteLength (rest.take n) + 1 =
        byteLength front + byteLength ('\x60' :: rest.take (n + 1)) := by
      have hquote : byteLength (rest.take (n + 1)) = byteLength (rest.take n) + 1 :=
        byteLength_take_of_split (by decide) (closingQuote?_lt_length hclose) (closingQuote?_split hclose)
      have hsingle : '\x60'.utf8Size = 1 := rfl
      rw [byteLength, hquote, hsingle]
      omega
    simp only [Option.map_some, hraw, hstop]
    show (do
      let expected ← ofSnapshot (Snapshot.unescape (rest.take n))
      return some (expected, byteLength front + byteLength ('\x60' :: rest.take (n + 1)))) = _
    rw [ofSnapshot_eq]
    rfl

/-- What a marker tells, and where it ends. -/
theorem expectation_append {m b : Text} {k : Marker} (h : Fixture.firstMarker? m = some k)
    (hm : m <+: b) (a : Text) : expectation (a ++ b) (ofMarker a b k) =
      .ok ((Fixture.expectation? b k).map fun told =>
        (told.1, byteLength a + byteLength (b.take told.2))) := by
  obtain ⟨behind, rfl⟩ := hm
  obtain ⟨between, marker, rest, rfl, hk, -⟩ := Fixture.exists_of_firstMarker? h
  rcases hk with ⟨@⟨w, -⟩, rfl⟩ | ⟨-, rfl⟩
  · let front := between ++ (Fixture.snapshotText ++ w)
    have htext : between ++ (Fixture.snapshotText ++ w ++ ['\x60'] ++ rest) ++ behind =
        front ++ '\x60' :: (rest ++ behind) := by simp [front]
    have hinside : (between ++ (Fixture.snapshotText ++ w ++ ['\x60'])).length = front.length + 1 := by
      simp [front]
      omega
    rw [htext, hinside, ofMarker, Nat.add_sub_cancel, List.take_left, ← Text.byteLength_append,
      ← List.append_assoc, expectation_snapshot, Fixture.expectation?]
    have hdrop : (front ++ '\x60' :: (rest ++ behind)).drop (front.length + 1) = rest ++ behind :=
      List.drop_length_add_append 1
    rw [hdrop, Option.map_map]
    refine congrArg Except.ok (Option.map_congr fun n _ => ?_)
    have htake : (front ++ '\x60' :: (rest ++ behind)).take (front.length + 1 + n + 1) =
        front ++ '\x60' :: (rest ++ behind).take (n + 1) := by
      rw [Nat.add_assoc, Nat.add_assoc, List.take_length_add_append, Nat.add_comm 1, List.take_succ_cons]
    rw [Function.comp, htake, ← Text.byteLength_append, ← Text.byteLength_append, List.append_assoc]
  · rfl

theorem readMarker_append {a b : Text} (h : Text.endOf none a = some ']') (found : List Text) :
    UpToOverflow limit windows.lookahead (byteLength (a ++ b))
      (readMarker limit windows (a ++ b) found (byteLength a))
      (((Fixture.firstMarker? (Fixture.markerStretch windows.lookahead b)).bind
        (Fixture.expectation? b)).map fun told =>
          ⟨told.1, found, byteLength a + byteLength (b.take told.2)⟩) := by
  refine (firstMarker_append h).bind (.inl ?_)
  cases hmarker : Fixture.firstMarker? (Fixture.markerStretch windows.lookahead b) with
  | none => rfl
  | some k =>
    have hprefix := Fixture.markerStretch_prefix windows.lookahead b
    show (do
      let told ← expectation (a ++ b) (ofMarker a b k)
      return told.map fun told : Expectation × Nat => (⟨told.1, found, told.2⟩ : Extracted)) = _
    rw [expectation_append hmarker hprefix, Option.bind_some]
    cases Fixture.expectation? b k <;> rfl

/-- What a reading becomes in a text that is measured in bytes. -/
def ofReading (a x : Text) (r : Reading) : Extracted :=
  ⟨r.expectation, r.tokens, byteLength a + byteLength (x.take r.stop)⟩

/-- An array ends at its bracket. -/
theorem readArray_eq (front inner behind : Text)
    (hclose : closing? Marks.chars .square .plain 0 (inner ++ ']' :: behind) = some inner.length) :
    readArray limit windows (front ++ '[' :: (inner ++ ']' :: behind)) (byteLength front) =
      if Fixture.tokens inner = [] then .ok none
      else readMarker limit windows (front ++ '[' :: (inner ++ ']' :: behind)) (Fixture.tokens inner)
        (byteLength (front ++ '[' :: (inner ++ [']']))) := by
  have hinner := slice_behind (c := '[') (by decide) front inner (']' :: behind)
  have hstop : byteLength front + 1 + byteLength inner + 1 =
      byteLength (front ++ '[' :: (inner ++ [']'])) := by
    have hopen : '['.utf8Size = 1 := rfl
    have hclose : ']'.utf8Size = 1 := rfl
    simp only [Text.byteLength_append, byteLength, hopen, hclose]
    omega
  rw [readArray, bracketClose?_append, hclose, Option.map_some, List.take_left]
  show (do
    let inside ← slice (front ++ '[' :: (inner ++ ']' :: behind)) (byteLength front + 1) _
    let found ← tokensFrom inside 0
    if found = [] then return none
      else readMarker limit windows (front ++ '[' :: (inner ++ ']' :: behind)) found _) = _
  rw [hinner, hstop]
  show (do
    let found ← tokensFrom inner 0
    if found = [] then return none
      else readMarker limit windows (front ++ '[' :: (inner ++ ']' :: behind)) found _) = _
  rw [tokensFrom_zero]
  rfl

/-- So it does character by character. -/
theorem readArray?_eq {call : Call} {front inner behind : Text} (hinside : call.inside = front.length + 1)
    (hclose : closing? Marks.chars .square .plain 0 (inner ++ ']' :: behind) = some inner.length) :
    Fixture.readArray? windows call (front ++ '[' :: (inner ++ ']' :: behind)) =
      if Fixture.tokens inner = [] then none
      else ((Fixture.firstMarker? (Fixture.markerStretch windows.lookahead behind)).bind
          (Fixture.expectation? behind)).map fun told =>
        ⟨told.1, Fixture.tokens inner, call, (front ++ '[' :: (inner ++ [']'])).length + told.2⟩ := by
  have hdrop : (front ++ '[' :: (inner ++ ']' :: behind)).drop call.inside = inner ++ ']' :: behind := by
    rw [hinside]
    exact List.drop_length_add_append 1
  have hbehind : (inner ++ ']' :: behind).drop (inner.length + 1) = behind :=
    List.drop_length_add_append 1
  have hlength : call.inside + (inner.length + 1) = (front ++ '[' :: (inner ++ [']'])).length := by
    simp only [hinside, List.length_append, List.length_cons, List.length_nil]
    omega
  simp only [Fixture.readArray?, Option.bind_eq_bind, hdrop, hclose, Option.bind_some, List.take_left,
    hbehind, hlength, ← Option.bind_assoc]
  split
  · rfl
  · cases (Fixture.firstMarker? (Fixture.markerStretch windows.lookahead behind)).bind
      (Fixture.expectation? behind) <;> rfl

theorem readArray_append {a x front rest : Text} {call : Call} (h : Opens x call front rest)
    (hkind : call.kind = .tokenArray) :
    UpToOverflow limit windows.lookahead (byteLength (a ++ x))
      (readArray limit windows (a ++ x) (byteLength (a ++ front)))
      ((Fixture.readArray? windows call x).map (ofReading a x)) := by
  have hx : x = front ++ '[' :: rest := by
    rw [h.text, hkind]
    rfl
  cases hclose : closing? Marks.chars .square .plain 0 rest with
  | none =>
    refine .inl ?_
    rw [Fixture.readArray?, h.drop, hclose, hx, ← List.append_assoc, readArray, bracketClose?_append,
      hclose]
    rfl
  | some n =>
    obtain ⟨inner, behind, rfl, rfl⟩ :
        ∃ inner behind, rest = inner ++ ']' :: behind ∧ inner.length = n :=
      ⟨rest.take n, rest.drop (n + 1), closing?_split hclose,
        List.length_take_of_le (Nat.le_of_lt (closing?_lt_length hclose))⟩
    rw [hx, readArray?_eq windows h.inside hclose, ← List.append_assoc,
      readArray_eq limit windows _ _ _ hclose]
    by_cases hfound : Fixture.tokens inner = []
    · rw [if_pos hfound, if_pos hfound]
      exact .inl rfl
    · rw [if_neg hfound, if_neg hfound]
      let array := front ++ '[' :: (inner ++ [']'])
      have hend : Text.endOf none (a ++ array) = some ']' := by
        rw [show a ++ array = (a ++ front ++ '[' :: inner) ++ [']'] by simp [array], Text.endOf_concat]
      have htext : a ++ front ++ '[' :: (inner ++ ']' :: behind) = a ++ array ++ behind := by simp [array]
      have harray : a ++ front ++ '[' :: (inner ++ [']']) = a ++ array := by simp [array]
      have hread : front ++ '[' :: (inner ++ ']' :: behind) = array ++ behind := by simp [array]
      have hresume (stop : Nat) : byteLength (a ++ array) + byteLength (behind.take stop) =
          byteLength a + byteLength ((array ++ behind).take (array.length + stop)) := by
        rw [List.take_length_add_append, Text.byteLength_append a, Text.byteLength_append array,
          Nat.add_assoc]
      have hmarker := readMarker_append limit windows (b := behind) hend (Fixture.tokens inner)
      simp only [hresume] at hmarker
      rw [htext, harray, hread, Option.map_map]
      exact hmarker

/-- **An assertion** is read by offsets as it is read character by character. -/
theorem extract_append {a x : Text} (h : Text.startsWith Fixture.anchorText x = true) :
    UpToOverflow limit windows.lookahead (byteLength (a ++ x))
      (extract limit windows (a ++ x) (byteLength a))
      ((Fixture.reading? windows x).map (ofReading a x)) := by
  rw [extract, nearestCall_append h, Fixture.reading?]
  cases hnearest : Fixture.nearestCall? windows.proximity x with
  | none => exact .inl rfl
  | some call =>
    obtain ⟨front, rest, hopens⟩ := opens_of_nearestCall? hnearest
    show UpToOverflow _ _ _ (readCall limit windows (a ++ x) (ofCall a x call)) _
    rw [hopens.ofCall]
    cases hkind : call.kind with
    | tokenArray =>
      simp only [hkind]
      exact readArray_append limit windows hopens hkind
    | themed =>
      refine .inl ?_
      have hx : x = front ++ '(' :: rest := by
        rw [hopens.text, hkind]
        rfl
      have hresume : byteLength (a ++ front) + 1 = byteLength a + byteLength (x.take call.inside) := by
        rw [hopens.inside, hx, byteLength_take_succ (by decide), List.take_left, Text.byteLength_append]
        omega
      have htokens := themedTokens_append (a ++ front) rest
      rw [List.append_assoc, ← hx] at htokens
      rw [readCall, htokens, hresume]
      simp only [hkind, hopens.drop]
      rfl

end Reading

end StyleSnapshot.Offsets
