import StyleSnapshot.Proofs.Fixture.Markers
import StyleSnapshot.Proofs.Offsets.Basic

/-! Calls and markers by offsets.

The call that feeds an assertion is known by the offset of the delimiter that opens its array
or its arguments, one byte in front of where its recognizer ends (`nearestCall_append`). The
stretch for a marker is measured in bytes and may end within a character; the end then goes
back, but not in front of the beginning (`markerStretch_append`). -/
namespace StyleSnapshot.Offsets

open Text (byteLength takeBytes)
open Fixture (CallKind Call Marker callWithin? tokenCall? themedCall? anchor? snapshotMarker? emptyMarker?
  firstPlace? opened?_eq_some_iff)

/-! ### Calls -/

/-- A call, and the offset of the bracket or of the parenthesis that opens its inside. -/
structure Invocation where
  kind : CallKind
  opening : Nat
  deriving DecidableEq, Repr

/-- The first thing that is recognized behind an anchor, if it is near enough. -/
def findWithin (recognize : Option Char → Text → Option Nat) (window : Nat) (t : Text) (anchor : Nat) :
    Except Fault (Option (Nat × Nat)) := do
  match ← find recognize t anchor with
  | none => return none
  | some found =>
    let distance ← difference found.1 anchor
    return if distance ≤ window then some found else none

/-- The call that ends with its opening delimiter. -/
def invocation (kind : CallKind) (found : Nat × Nat) : Except Fault (Option Invocation) := do
  let opening ← difference found.2 1
  return some ⟨kind, opening⟩

/-- The nearer one of two calls. -/
def nearer : Option (Nat × Nat) → Option (Nat × Nat) → Except Fault (Option Invocation)
  | some array, some themed =>
    if themed.1 < array.1 then invocation .themed themed else invocation .tokenArray array
  | some array, none => invocation .tokenArray array
  | none, some themed => invocation .themed themed
  | none, none => .ok none

/-- The call nearest to the anchor at an offset. -/
def nearestCall (window : Nat) (t : Text) (anchor : Nat) : Except Fault (Option Invocation) := do
  let array ← findWithin tokenCall? window t anchor
  let themed ← findWithin themedCall? window t anchor
  nearer array themed

/-- The delimiter that a call of some kind ends with. -/
def delimiter : CallKind → Char
  | .tokenArray => '['
  | .themed => '('

/-- What is recognized ends in a character. -/
def EndsIn (recognize : Option Char → Text → Option Nat) (c : Char) : Prop :=
  ∀ before t n, recognize before t = some n →
    ∃ front rest, t = front ++ c :: rest ∧ n = front.length + 1

theorem endsIn_tokenCall : EndsIn tokenCall? '[' := by
  intro before t n h
  rw [tokenCall?] at h
  split at h
  · obtain ⟨w, rest, -, rfl, rfl⟩ := (opened?_eq_some_iff (by decide)).1 h
    exact ⟨Fixture.runText ++ w, rest, by simp, by simp⟩
  · exact absurd h.symm (Option.some_ne_none n)

theorem endsIn_themedCall : EndsIn themedCall? '(' := by
  intro before t n h
  rw [themedCall?] at h
  split at h
  · next hcall =>
    obtain ⟨rest, hrest⟩ := Option.isSome_iff_exists.1 ((Bool.and_eq_true _ _).mp hcall).2
    obtain rfl := Option.some.inj h
    rw [Text.after?_eq_some_iff.1 hrest]
    exact ⟨"compileCss".toList, rest, rfl, rfl⟩
  · exact absurd h.symm (Option.some_ne_none n)

theorem endsIn_snapshotMarker : EndsIn (fun _ => snapshotMarker?) '\x60' := by
  intro before t n h
  obtain ⟨w, rest, -, rfl, rfl⟩ := (opened?_eq_some_iff (by decide)).1 h
  exact ⟨Fixture.snapshotText ++ w, rest, by simp, by simp⟩

/-- Where the first place is that something is recognized at, it ends in its character. -/
theorem EndsIn.firstPlace? {recognize : Option Char → Text → Option Nat} {c : Char}
    (h : EndsIn recognize c) {before : Option Char} {t : Text} {start n : Nat}
    (hfirst : Fixture.firstPlace? recognize before t = some (start, n)) :
    ∃ front rest, t = front ++ c :: rest ∧ start + n = front.length + 1 ∧ start ≤ front.length := by
  obtain ⟨skipped, d, x, rfl, rfl, hfound, -⟩ := Fixture.firstPlace?_eq_some_iff.1 hfirst
  obtain ⟨front, rest, hx, rfl⟩ := h _ _ _ hfound
  refine ⟨skipped ++ front, rest, by rw [hx, List.append_assoc], ?_, ?_⟩
  · rw [List.length_append, Nat.add_assoc]
  · rw [List.length_append]
    exact Nat.le_add_right _ _

section Anchor
variable {a x : Text} {window : Nat}

theorem firstPlace?_of_none {recognize : Option Char → Text → Option Nat}
    (h : ∀ before, recognize before x = none) (before before' : Option Char) :
    firstPlace? recognize before x = firstPlace? recognize before' x := by
  cases x with
  | nil => rfl
  | cons c x => rw [firstPlace?, firstPlace?, h before, h before']

/-- The first call of one kind, if it is near enough. -/
theorem findWithin_append {recognize : Option Char → Text → Option Nat} (kind : CallKind)
    (h : ∀ before, recognize before x = none) :
    findWithin recognize window (a ++ x) (byteLength a) =
      .ok ((callWithin? window kind recognize x).map fun call =>
        (byteLength a + byteLength (x.take call.start), byteLength a + byteLength (x.take call.inside))) := by
  rw [findWithin, find_append, firstPlace?_of_none h _ none, callWithin?, Fixture.firstPlaceWithin?_eq]
  cases firstPlace? recognize none x with
  | none => rfl
  | some found =>
    show (do
      let distance ← difference (byteLength a + byteLength (x.take found.1)) (byteLength a)
      return if distance ≤ window then some (byteLength a + byteLength (x.take found.1),
        byteLength a + byteLength (x.take (found.1 + found.2))) else none) = _
    rw [difference_add, Option.filter_some]
    by_cases hnear : byteLength (x.take found.1) ≤ window
    · rw [if_pos (decide_eq_true hnear)]
      exact congrArg Except.ok (if_pos hnear)
    · rw [if_neg (by simpa using hnear)]
      exact congrArg Except.ok (if_neg hnear)

/-- A call in front of its delimiter. -/
structure Opens (x : Text) (call : Call) (front rest : Text) : Prop where
  text : x = front ++ delimiter call.kind :: rest
  inside : call.inside = front.length + 1
  start : call.start ≤ front.length

theorem opens_of_callWithin? {recognize : Option Char → Text → Option Nat} {kind : CallKind}
    (hends : EndsIn recognize (delimiter kind)) {call : Call}
    (h : callWithin? window kind recognize x = some call) :
    call.kind = kind ∧ ∃ front rest, Opens x call front rest := by
  obtain ⟨⟨start, n⟩, hfound, rfl⟩ := Option.map_eq_some_iff.1 h
  obtain ⟨front, rest, htext, hinside, hstart⟩ :=
    hends.firstPlace? (Fixture.firstPlaceWithin?_eq_some_iff.1 hfound).1
  exact ⟨rfl, front, rest, htext, hinside, hstart⟩

/-- What a call becomes in a text that is measured in bytes. -/
def ofCall (a x : Text) (call : Call) : Invocation :=
  ⟨call.kind, byteLength a + byteLength (x.take (call.inside - 1))⟩

theorem single_delimiter (kind : CallKind) : Text.Single (delimiter kind) := by
  cases kind <;> decide

theorem Opens.invocation {call : Call} {front rest : Text} (h : Opens x call front rest) (start : Nat) :
    invocation call.kind (start, byteLength a + byteLength (x.take call.inside)) =
      .ok (some (ofCall a x call)) := by
  have hlast : byteLength a + byteLength (x.take call.inside) =
      1 + (byteLength a + byteLength (x.take front.length)) := by
    rw [h.inside, h.text, byteLength_take_succ (single_delimiter call.kind)]
    omega
  rw [Offsets.invocation, hlast, difference_add, ofCall, h.inside, Nat.add_sub_cancel]
  rfl

theorem Opens.ofCall {call : Call} {front rest : Text} (h : Opens x call front rest) :
    ofCall a x call = ⟨call.kind, byteLength (a ++ front)⟩ := by
  rw [Offsets.ofCall, h.inside, Nat.add_sub_cancel, h.text, List.take_left, Text.byteLength_append]

/-- What stands inside of the delimiter. -/
theorem Opens.drop {call : Call} {front rest : Text} (h : Opens x call front rest) :
    x.drop call.inside = rest := by
  rw [h.inside, h.text]
  exact List.drop_length_add_append 1

theorem Opens.start_lt {call : Call} {front rest : Text} (h : Opens x call front rest) :
    call.start < x.length := by
  rw [h.text, List.length_append, List.length_cons]
  have := h.start
  omega

theorem opens_of_nearestCall? {call : Call} (h : Fixture.nearestCall? window x = some call) :
    ∃ front rest, Opens x call front rest := by
  rw [Fixture.nearestCall?] at h
  have harray {array : Call} (hfirst : callWithin? window .tokenArray tokenCall? x = some array) :
      ∃ front rest, Opens x array front rest := (opens_of_callWithin? endsIn_tokenCall hfirst).2
  have hthemed {themed : Call} (hsecond : callWithin? window .themed themedCall? x = some themed) :
      ∃ front rest, Opens x themed front rest := (opens_of_callWithin? endsIn_themedCall hsecond).2
  split at h
  · next hfirst hsecond =>
    split at h
    · exact Option.some.inj h ▸ hthemed hsecond
    · exact Option.some.inj h ▸ harray hfirst
  · next hfirst _ => exact Option.some.inj h ▸ harray hfirst
  · exact hthemed h

/-- An anchor is no call. -/
theorem not_call_of_anchor (h : Text.startsWith Fixture.anchorText x = true) (before : Option Char) :
    tokenCall? before x = none ∧ themedCall? before x = none := by
  obtain ⟨y, hy⟩ := Option.isSome_iff_exists.1 h
  obtain rfl := Text.after?_eq_some_iff.1 hy
  constructor
  · rw [tokenCall?]
    split <;> rfl
  · have hstart : Text.startsWith Fixture.compileText (Fixture.anchorText ++ y) = false := rfl
    rw [themedCall?, hstart, Bool.and_false]
    rfl

/-- The call nearest to an anchor is the one that is found character by character. -/
theorem nearestCall_append (h : Text.startsWith Fixture.anchorText x = true) :
    nearestCall window (a ++ x) (byteLength a) =
      .ok ((Fixture.nearestCall? window x).map (ofCall a x)) := by
  rw [nearestCall, findWithin_append .tokenArray fun before => (not_call_of_anchor h before).1,
    findWithin_append .themed fun before => (not_call_of_anchor h before).2, Fixture.nearestCall?]
  show nearer _ _ = _
  cases hfirst : callWithin? window .tokenArray tokenCall? x with
  | none =>
    cases hsecond : callWithin? window .themed themedCall? x with
    | none => rfl
    | some themed =>
      obtain ⟨hkind, front, rest, hopens⟩ := opens_of_callWithin? endsIn_themedCall hsecond
      show Offsets.invocation .themed _ = _
      rw [← hkind, hopens.invocation]
      rfl
  | some array =>
    obtain ⟨hkind, front, rest, hopens⟩ := opens_of_callWithin? endsIn_tokenCall hfirst
    cases hsecond : callWithin? window .themed themedCall? x with
    | none =>
      show Offsets.invocation .tokenArray _ = _
      rw [← hkind, hopens.invocation]
      rfl
    | some themed =>
      obtain ⟨hkind', front', rest', hopens'⟩ := opens_of_callWithin? endsIn_themedCall hsecond
      have hlt : byteLength a + byteLength (x.take themed.start) <
          byteLength a + byteLength (x.take array.start) ↔ themed.start < array.start := by
        rw [Nat.add_lt_add_iff_left, byteLength_take_lt_iff hopens'.start_lt]
      simp only [Option.map_some, nearer, hlt]
      rw [← hkind, ← hkind', hopens.invocation, hopens'.invocation]
      split <;> rfl

end Anchor

/-! ### Markers -/

/-- A marker by offsets into the block. -/
inductive MarkerPlace where
  /-- An inline snapshot whose body is opened at an offset. -/
  | snapshot (opening : Nat)
  /-- A comparison with the empty text that ends at an offset. -/
  | empty (stop : Nat)
  deriving DecidableEq, Repr

section Window
variable (limit lookahead : Nat)

/-- Where a window ends that begins at a place; offsets stay below the limit. -/
def reach (place : Nat) : Except Fault Nat :=
  if place + lookahead < limit then .ok (place + lookahead) else .error (.overflow place lookahead)

/-- The stretch behind an array in which a marker may stand. -/
def markerStretch (t : Text) (start : Nat) : Except Fault Text := do
  let far ← reach limit lookahead start
  let next ← find anchor? t start
  let near := min far (byteLength t)
  let stop ← floorBoundary t (next.elim near fun found => min near found.1)
  slice t start stop

/-- The marker that is opened by the last character of what was found. -/
def snapshotPlace (start : Nat) (found : Nat × Nat) : Except Fault (Option MarkerPlace) := do
  let opening ← difference (start + found.2) 1
  return some (.snapshot opening)

/-- The first of two markers. -/
def firstPlace (start : Nat) :
    Option (Nat × Nat) → Option (Nat × Nat) → Except Fault (Option MarkerPlace)
  | some snapshot, some empty =>
    if empty.1 < snapshot.1 then .ok (some (.empty (start + empty.2))) else snapshotPlace start snapshot
  | some snapshot, none => snapshotPlace start snapshot
  | none, some empty => .ok (some (.empty (start + empty.2)))
  | none, none => .ok none

/-- The first marker behind the array that ends at an offset. -/
def firstMarker (t : Text) (start : Nat) : Except Fault (Option MarkerPlace) := do
  let window ← markerStretch limit lookahead t start
  let snapshot ← find (fun _ => snapshotMarker?) window 0
  let empty ← find (fun _ => emptyMarker?) window 0
  firstPlace start snapshot empty

end Window

/-- A result that is missed at most because a place in a text and the window exceed what an
offset can be. -/
def UpToOverflow (limit lookahead bound : Nat) {α : Type} (r : Except Fault α) (v : α) : Prop :=
  r = .ok v ∨ ∃ place ≤ bound, limit ≤ place + lookahead ∧ r = .error (.overflow place lookahead)

theorem UpToOverflow.bind {limit lookahead bound : Nat} {α β : Type} {r : Except Fault α} {v : α}
    (h : UpToOverflow limit lookahead bound r v) {f : α → Except Fault β} {w : β}
    (hf : UpToOverflow limit lookahead bound (f v) w) :
    UpToOverflow limit lookahead bound (r >>= f) w := by
  rcases h with rfl | ⟨place, hplace, hlimit, rfl⟩
  · exact hf
  · exact .inr ⟨place, hplace, hlimit, rfl⟩

theorem UpToOverflow.map {limit lookahead bound : Nat} {α β : Type} {r : Except Fault α} {v : α}
    (h : UpToOverflow limit lookahead bound r v) (f : α → β) :
    UpToOverflow limit lookahead bound (r.map f) (f v) := by
  rcases h with rfl | ⟨place, hplace, hlimit, rfl⟩
  · exact .inl rfl
  · exact .inr ⟨place, hplace, hlimit, rfl⟩

section Stretch
variable {limit lookahead : Nat} {a b : Text}

/-- A beginning of whole characters that a shorter one bounds as well. -/
theorem takeBytes_min (n k : Nat) (t : Text) :
    takeBytes (min n (byteLength (t.take k))) t = (takeBytes n t).take k := by
  induction t generalizing n k with
  | nil => simp [takeBytes]
  | cons c t ih =>
    cases k with
    | zero => rw [List.take_zero, byteLength, Nat.min_zero, takeBytes_zero, List.take_zero]
    | succ k =>
      rw [List.take_succ_cons, byteLength, takeBytes, takeBytes]
      by_cases hc : c.utf8Size ≤ n
      · have hmin : min n (c.utf8Size + byteLength (t.take k)) - c.utf8Size =
            min (n - c.utf8Size) (byteLength (t.take k)) := by omega
        rw [if_pos (by omega), if_pos hc, hmin, ih, List.take_succ_cons]
      · rw [if_neg (by omega), if_neg hc, List.take_nil]

theorem takeBytes_byteLength (n : Nat) (t : Text) :
    takeBytes (min n (byteLength t)) t = takeBytes n t := by
  have h := takeBytes_min n t.length t
  rwa [List.take_length, List.take_of_length_le (Text.takeBytes_prefix n t).length_le] at h

/-- The end of the stretch goes back to a character and not in front of the beginning. -/
theorem markerStretch_append (hbefore : Text.endOf none a = some ']') :
    UpToOverflow limit lookahead (byteLength (a ++ b))
      (markerStretch limit lookahead (a ++ b) (byteLength a)) (Fixture.markerStretch lookahead b) := by
  have hplace : byteLength a ≤ byteLength (a ++ b) := by
    rw [Text.byteLength_append]
    exact Nat.le_add_right _ _
  by_cases hlimit : byteLength a + lookahead < limit
  · refine .inl ?_
    obtain ⟨behind, hbehind⟩ := Fixture.markerStretch_prefix lookahead b
    have hstop : floorBoundary (a ++ b) (((firstPlace? anchor? (some ']') b).map fun found =>
          (byteLength a + byteLength (b.take found.1), byteLength a + byteLength (b.take (found.1 + found.2)))).elim
          (min (byteLength a + lookahead) (byteLength (a ++ b)))
          fun found => min (min (byteLength a + lookahead) (byteLength (a ++ b))) found.1) =
        .ok (byteLength a + byteLength (Fixture.markerStretch lookahead b)) := by
      rw [Text.byteLength_append, Nat.add_min_add_left, Fixture.markerStretch]
      cases firstPlace? anchor? (some ']') b with
      | none =>
        rw [Option.map_none, Option.elim_none, floorBoundary_append, takeBytes_byteLength]
      | some found =>
        rw [Option.map_some, Option.elim_some, Nat.add_min_add_left, floorBoundary_append,
          takeBytes_min, takeBytes_byteLength]
    rw [markerStretch, reach, if_pos hlimit, find_append, hbefore]
    show (do
      let stop ← floorBoundary (a ++ b) _
      slice (a ++ b) (byteLength a) stop) = _
    rw [hstop]
    have hslice := slice_append a (Fixture.markerStretch lookahead b) behind
    rwa [hbehind] at hslice
  · refine .inr ⟨byteLength a, hplace, Nat.le_of_not_lt hlimit, ?_⟩
    rw [markerStretch, reach, if_neg hlimit]
    rfl

/-- What a marker becomes in a text that is measured in bytes. -/
def ofMarker (a b : Text) : Marker → MarkerPlace
  | .snapshot inside => .snapshot (byteLength a + byteLength (b.take (inside - 1)))
  | .empty stop => .empty (byteLength a + byteLength (b.take stop))

theorem snapshotPlace_eq {m : Text} (hm : m <+: b) {start n : Nat}
    (h : firstPlace? (fun _ => snapshotMarker?) none m = some (start, n)) :
    snapshotPlace (byteLength a) (byteLength (m.take start), byteLength (m.take (start + n))) =
      .ok (some (ofMarker a b (.snapshot (start + n)))) := by
  obtain ⟨front, rest, rfl, hinside, -⟩ := endsIn_snapshotMarker.firstPlace? h
  obtain ⟨more, rfl⟩ := hm
  have hlast : byteLength a + byteLength ((front ++ '\x60' :: rest).take (start + n)) =
      1 + (byteLength a + byteLength front) := by
    rw [hinside, byteLength_take_succ (by decide), List.take_left]
    omega
  have htake : ((front ++ '\x60' :: rest) ++ more).take front.length = front := by
    rw [List.append_assoc, List.take_left]
  rw [snapshotPlace, hlast, difference_add, ofMarker, hinside, Nat.add_sub_cancel, htake]
  rfl

/-- A comparison lies within the text that it was found in. -/
theorem emptyPlace_eq {m : Text} (hm : m <+: b) {start n : Nat}
    (h : firstPlace? (fun _ => emptyMarker?) none m = some (start, n)) :
    MarkerPlace.empty (byteLength a + byteLength (m.take (start + n))) =
      ofMarker a b (.empty (start + n)) := by
  obtain ⟨skipped, c, x, rfl, rfl, hfound, -⟩ := Fixture.firstPlace?_eq_some_iff.1 h
  obtain ⟨w, rest, -, hx, rfl⟩ := Fixture.emptyMarker?_eq_some_iff.1 hfound
  obtain ⟨more, rfl⟩ := hm
  have hle : skipped.length + w.length ≤ (skipped ++ c :: x).length := by
    rw [hx, List.length_append, List.length_append]
    omega
  rw [ofMarker, List.take_append_of_le_length hle]

/-- The first marker is the one that is found character by character. -/
theorem firstMarker_append (hbefore : Text.endOf none a = some ']') :
    UpToOverflow limit lookahead (byteLength (a ++ b))
      (firstMarker limit lookahead (a ++ b) (byteLength a))
      ((Fixture.firstMarker? (Fixture.markerStretch lookahead b)).map (ofMarker a b)) := by
  refine (markerStretch_append hbefore).bind (.inl ?_)
  have hprefix := Fixture.markerStretch_prefix lookahead b
  generalize Fixture.markerStretch lookahead b = m at hprefix
  rw [find_zero, find_zero, Fixture.firstMarker?]
  show firstPlace _ _ _ = _
  cases hsnapshot : Fixture.firstPlace? (fun _ => snapshotMarker?) none m with
  | none =>
    cases hempty : Fixture.firstPlace? (fun _ => emptyMarker?) none m with
    | none => rfl
    | some empty => exact congrArg (Except.ok ∘ some) (emptyPlace_eq hprefix hempty)
  | some snapshot =>
    cases hempty : Fixture.firstPlace? (fun _ => emptyMarker?) none m with
    | none => exact snapshotPlace_eq hprefix hsnapshot
    | some empty =>
      have hlt : byteLength (m.take empty.1) < byteLength (m.take snapshot.1) ↔ empty.1 < snapshot.1 :=
        byteLength_take_lt_iff (Fixture.firstPlace?_lt_length hempty)
      simp only [Option.map_some, firstPlace, hlt]
      split
      · exact congrArg (Except.ok ∘ some) (emptyPlace_eq hprefix hempty)
      · exact snapshotPlace_eq hprefix hsnapshot

end Stretch

end StyleSnapshot.Offsets
