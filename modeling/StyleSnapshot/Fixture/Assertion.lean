import StyleSnapshot.Fixture.Call
import StyleSnapshot.Fixture.Tokens
import StyleSnapshot.Snapshot.Basic

/-! The assertions of a test block.

From an anchor the nearest call within a window of bytes feeds the assertion. Behind the
array of a token call a marker is looked for, within a second window that never reaches
the next anchor. An anchor without a call, without tokens or without a marker is passed
over. A themed call is recognized but its expectation is deferred.

`Reading` is relative to the anchor, since what is read there depends on nothing before
it; `Round` is relative to the block. -/
namespace StyleSnapshot.Fixture

/-- How far an assertion may stretch, in bytes. Where a window ends, a place plus its size, is a
sum without bound here. Only reading by offsets knows a largest one: there a lookahead that ends
beyond it is a fault (`Offsets.Fault.overflow`), and up to it nothing is different. -/
structure Windows where
  /-- The largest distance from an anchor to the call that feeds it. -/
  proximity : Nat := 50
  /-- How far behind the call its marker may end. -/
  lookahead : Nat := 80
  deriving DecidableEq, Repr

/-- What an assertion expects of the compiler's output. -/
inductive Expectation where
  /-- A stylesheet with the same rules. -/
  | css (expected : Text)
  /-- No output. -/
  | empty
  /-- Recognized but not evaluated: it depends on a theme. -/
  | deferred
  deriving DecidableEq, Repr

namespace Expectation

/-- What the body of a snapshot expects. -/
def ofSnapshot (body : Text) : Expectation :=
  if Text.trim (Snapshot.unquote body) = [] then .empty else .css (Snapshot.sanitize body)

def label : Expectation → Text
  | .css _ => "match".toList
  | .empty => "empty".toList
  | .deferred => "deferred".toList

end Expectation

/-- A call that feeds an assertion, in characters from the anchor. -/
structure Call where
  kind : CallKind
  /-- Where the call begins. -/
  start : Nat
  /-- Where the inside of its array or of its parentheses begins. -/
  inside : Nat
  deriving DecidableEq, Repr

/-- The first place behind the anchor with a call of one kind, if it is near enough. -/
def callWithin? (window : Nat) (kind : CallKind)
    (recognize : Option Char → Text → Option Nat) (t : Text) : Option Call :=
  (firstPlaceWithin? recognize window none t).map fun found =>
    ⟨kind, found.1, found.1 + found.2⟩

/-- The call that feeds the assertion whose anchor begins the text. -/
def nearestCall? (window : Nat) (t : Text) : Option Call :=
  match callWithin? window .tokenArray tokenCall? t, callWithin? window .themed themedCall? t with
  | some array, some themed => if themed.start < array.start then some themed else some array
  | some array, none => some array
  | none, themed => themed

/-- What tells the expectation, in characters from where it was looked for. -/
inductive Marker where
  /-- An inline snapshot whose body begins at `inside`. -/
  | snapshot (inside : Nat)
  /-- A comparison with the empty text that ends before `stop`. -/
  | empty (stop : Nat)
  deriving DecidableEq, Repr

/-- The stretch behind an array in which a marker may stand: as many bytes as the window
allows, but not beyond the next anchor. The array ends in a bracket, which is no word
character. Any window is accepted, also one that ends where no offset is. -/
def markerStretch (window : Nat) (t : Text) : Text :=
  let near := Text.takeBytes window t
  match firstPlace? anchor? (some ']') t with
  | some (next, _) => near.take next
  | none => near

/-- The first marker in the text. -/
def firstMarker? (t : Text) : Option Marker :=
  match firstPlace? (fun _ => snapshotMarker?) none t, firstPlace? (fun _ => emptyMarker?) none t with
  | some (s, inside), some (e, length) =>
    if e < s then some (.empty (e + length)) else some (.snapshot (s + inside))
  | some (s, inside), none => some (.snapshot (s + inside))
  | none, some (e, length) => some (.empty (e + length))
  | none, none => none

/-- What an anchor was paired with, in characters from the anchor. -/
structure Reading where
  expectation : Expectation
  tokens : List Text
  call : Call
  /-- Where reading goes on. -/
  stop : Nat
  deriving DecidableEq, Repr

/-- The expectation a marker tells, and where it ends; the text is the one the marker was
found in. -/
def expectation? (t : Text) : Marker → Option (Expectation × Nat)
  | .empty stop => some (.empty, stop)
  | .snapshot inside =>
    (closingQuote? '\\' '\x60' false (t.drop inside)).map fun n =>
      (.ofSnapshot (Snapshot.unescape ((t.drop inside).take n)), inside + n + 1)

/-- Reads the assertion whose array of tokens begins behind `call`. -/
def readArray? (windows : Windows) (call : Call) (t : Text) : Option Reading := do
  let array := t.drop call.inside
  let n ← closing? Marks.chars .square .plain 0 array
  let found := Fixture.tokens (array.take n)
  if found = [] then none
  else
    let behind := array.drop (n + 1)
    let marker ← firstMarker? (markerStretch windows.lookahead behind)
    let (expectation, stop) ← expectation? behind marker
    some ⟨expectation, found, call, call.inside + (n + 1) + stop⟩

/-- Reads the assertion whose anchor begins the text. -/
def reading? (windows : Windows) (t : Text) : Option Reading :=
  match nearestCall? windows.proximity t with
  | none => none
  | some call =>
    match call.kind with
    | .themed => some ⟨.deferred, themedTokens (t.drop call.inside), call, call.inside⟩
    | .tokenArray => readArray? windows call t

/-! ### Rounds -/

/-- One anchor of a block. -/
structure Round where
  /-- Where the anchor begins, in characters from the beginning of the block. -/
  anchor : Nat
  reading : Option Reading
  deriving DecidableEq, Repr

namespace Round

/-- Where the next round begins to look for an anchor. -/
def next (r : Round) : Nat :=
  match r.reading with
  | none => r.anchor + anchorText.length
  | some reading => max (r.anchor + reading.stop) (r.anchor + anchorText.length)

end Round

/-- The character before a place. -/
def charBefore (t : Text) : Nat → Option Char
  | 0 => none
  | n + 1 => t[n]?

/-- The first anchor at or behind a place. -/
def round? (windows : Windows) (t : Text) (start : Nat) : Option Round :=
  (firstPlace? anchor? (charBefore t start) (t.drop start)).map fun found =>
    ⟨start + found.1, reading? windows (t.drop (start + found.1))⟩

theorem start_lt_next {windows : Windows} {t : Text} {start : Nat} {r : Round}
    (h : round? windows t start = some r) : start < t.length ∧ start < r.next := by
  obtain ⟨found, hf, rfl⟩ := Option.map_eq_some_iff.1 h
  constructor
  · cases hd : t.drop start with
    | nil => simp [hd, firstPlace?] at hf
    | cons c rest =>
      have := congrArg List.length hd
      simp only [List.length_drop, List.length_cons] at this
      omega
  · have : anchorText.length = 7 := rfl
    simp only [Round.next]
    split <;> omega

/-- The anchors of a block at or behind a place, each with what it was paired with. -/
def rounds (windows : Windows) (t : Text) (start : Nat) : List Round :=
  match _h : round? windows t start with
  | none => []
  | some r => r :: rounds windows t r.next
termination_by t.length - start
decreasing_by
  have := start_lt_next _h
  omega

theorem rounds_of_none {windows : Windows} {t : Text} {start : Nat}
    (h : round? windows t start = none) : rounds windows t start = [] := by
  rw [rounds]
  split
  · rfl
  · next h' => exact absurd (h'.symm.trans h) (Option.some_ne_none _)

theorem rounds_of_some {windows : Windows} {t : Text} {start : Nat} {r : Round}
    (h : round? windows t start = some r) :
    rounds windows t start = r :: rounds windows t r.next := by
  rw [rounds]
  split
  · next h' => exact absurd (h.symm.trans h') (Option.some_ne_none _)
  · next h' =>
    obtain rfl := Option.some.inj (h.symm.trans h')
    rfl

end StyleSnapshot.Fixture
