import StyleSnapshot.Fixture.Call
import StyleSnapshot.Proofs.Text.Bytes
import StyleSnapshot.Proofs.Text.Places

/-! Byte offsets into a text.

A reader that keeps a text whole and marks places in it by offsets into the UTF-8 form can go
wrong where a reader of characters cannot: an offset may lie behind the end or within a
character, a stretch may end before it begins, a difference may be negative. The operations
here fail in these cases (`Fault`). A text that is known in parts tells the offsets at which
they do not: the lengths of what stands in front (`cut_append`, `slice_append`,
`find_append`). -/
namespace StyleSnapshot.Offsets

open Text (byteLength takeBytes)

/-- Why an operation on offsets has no result. -/
inductive Fault where
  /-- An offset lies behind the end of the text. -/
  | outside
  /-- An offset lies within a character. -/
  | divided
  /-- A stretch ends before it begins. -/
  | backwards
  /-- A difference of offsets is negative. -/
  | negative
  /-- A place and a window together exceed what an offset can be. -/
  | overflow (place window : Nat)
  /-- A loop does not get on. -/
  | stuck
  deriving DecidableEq, Repr

/-! ### Cutting -/

/-- The text up to an offset and from there on. -/
def cut : Nat → Text → Except Fault (Text × Text)
  | 0, t => .ok ([], t)
  | _ + 1, [] => .error .outside
  | n + 1, c :: t =>
    if c.utf8Size ≤ n + 1 then
      (cut (n + 1 - c.utf8Size) t).map fun parts => (c :: parts.1, parts.2)
    else .error .divided

theorem cut_zero (t : Text) : cut 0 t = .ok ([], t) := by
  cases t <;> rfl

/-- Behind a whole character cutting goes on in the rest. -/
theorem cut_cons (c : Char) (n : Nat) (t : Text) : cut (c.utf8Size + n) (c :: t) =
    (cut n t).map fun parts => (c :: parts.1, parts.2) := by
  obtain ⟨k, hk⟩ := Nat.exists_eq_add_of_lt c.utf8Size_pos
  rw [Nat.zero_add] at hk
  have hsum : c.utf8Size + n = (k + n) + 1 := by omega
  have hrest : k + n + 1 - c.utf8Size = n := by omega
  rw [hsum, cut, if_pos (by omega), hrest]

theorem cut_add (a : Text) (n : Nat) (b : Text) : cut (byteLength a + n) (a ++ b) =
    (cut n b).map fun parts => (a ++ parts.1, parts.2) := by
  induction a with
  | nil =>
    rw [byteLength, Nat.zero_add, List.nil_append]
    cases cut n b <;> rfl
  | cons c a ih =>
    rw [byteLength, Nat.add_assoc, List.cons_append, cut_cons, ih]
    cases cut n b <;> rfl

theorem cut_append (a b : Text) : cut (byteLength a) (a ++ b) = .ok (a, b) := by
  have h := cut_add a 0 b
  rw [Nat.add_zero, cut_zero] at h
  rw [h, Except.map, List.append_nil]

/-- The text from an offset on. -/
def suffix (t : Text) (start : Nat) : Except Fault Text := (cut start t).map (·.2)

theorem suffix_append (a b : Text) : suffix (a ++ b) (byteLength a) = .ok b := by
  rw [suffix, cut_append]
  rfl

theorem suffix_add (a m b : Text) :
    suffix (a ++ (m ++ b)) (byteLength a + byteLength m) = .ok b := by
  rw [← Text.byteLength_append, ← List.append_assoc, suffix_append]

/-- The text between two offsets. -/
def slice (t : Text) (start stop : Nat) : Except Fault Text :=
  if stop < start then .error .backwards
  else do
    let (front, _) ← cut stop t
    suffix front start

theorem slice_append (a m b : Text) :
    slice (a ++ (m ++ b)) (byteLength a) (byteLength a + byteLength m) = .ok m := by
  have hcut : cut (byteLength a + byteLength m) (a ++ (m ++ b)) = .ok (a ++ m, b) := by
    rw [cut_add, cut_append]
    rfl
  rw [slice, if_neg (by omega), hcut]
  exact suffix_append a m

theorem byteLength_concat (t : Text) (c : Char) :
    byteLength (t ++ [c]) = byteLength t + c.utf8Size := by
  rw [Text.byteLength_append, byteLength, byteLength, Nat.add_zero]

theorem suffix_behind {c : Char} (hc : Text.Single c) (a b : Text) :
    suffix (a ++ c :: b) (byteLength a + 1) = .ok b := by
  have h := suffix_append (a ++ [c]) b
  rwa [byteLength_concat, hc, List.append_assoc, List.singleton_append] at h

/-- What stands behind an opening mark. -/
theorem slice_behind {c : Char} (hc : Text.Single c) (a m b : Text) :
    slice (a ++ c :: (m ++ b)) (byteLength a + 1) (byteLength a + 1 + byteLength m) = .ok m := by
  have h := slice_append (a ++ [c]) m b
  rwa [byteLength_concat, hc, List.append_assoc, List.singleton_append] at h

/-- How far a place is behind another one. -/
def difference (m n : Nat) : Except Fault Nat := if m < n then .error .negative else .ok (m - n)

theorem difference_add (n k : Nat) : difference (n + k) n = .ok k := by
  rw [difference, if_neg (by omega), Nat.add_sub_cancel_left]

/-! ### Boundaries of characters -/

/-- Whether a character begins or the text ends at an offset. -/
def isBoundary (t : Text) (n : Nat) : Bool := (cut n t).toOption.isSome

/-- The last boundary that is not behind an offset. -/
def floorBoundary (t : Text) : Nat → Except Fault Nat
  | 0 => if isBoundary t 0 then .ok 0 else .error .negative
  | n + 1 => if isBoundary t (n + 1) then .ok (n + 1) else floorBoundary t n

theorem isBoundary_add (a : Text) (n : Nat) (b : Text) :
    isBoundary (a ++ b) (byteLength a + n) = isBoundary b n := by
  rw [isBoundary, isBoundary, cut_add]
  cases cut n b <;> rfl

theorem takeBytes_zero (t : Text) : takeBytes 0 t = [] := by
  cases t with
  | nil => rfl
  | cons c t => rw [takeBytes, if_neg (by have := c.utf8Size_pos; omega)]

/-- An offset is a boundary if whole characters reach up to it. -/
theorem isBoundary_iff {t : Text} {n : Nat} :
    isBoundary t n = true ↔ byteLength (takeBytes n t) = n := by
  induction t generalizing n with
  | nil => cases n <;> simp [isBoundary, cut, takeBytes, byteLength, Except.toOption]
  | cons c t ih =>
    by_cases hc : c.utf8Size ≤ n
    · obtain ⟨k, rfl⟩ := Nat.exists_eq_add_of_le hc
      have hstep := isBoundary_add [c] k t
      rw [byteLength, byteLength, Nat.add_zero, List.singleton_append] at hstep
      rw [hstep, ih, takeBytes, if_pos hc, byteLength, Nat.add_sub_cancel_left, Nat.add_left_cancel_iff]
    · cases n with
      | zero => simp [isBoundary, cut_zero, Except.toOption, takeBytes_zero, byteLength]
      | succ n => simp [isBoundary, cut, takeBytes, hc, byteLength, Except.toOption]

/-- Where no character ends the last one does not count. -/
theorem takeBytes_succ {t : Text} {n : Nat} (h : byteLength (takeBytes (n + 1) t) ≠ n + 1) :
    takeBytes (n + 1) t = takeBytes n t := by
  induction t generalizing n with
  | nil => rfl
  | cons c t ih =>
    by_cases hc : c.utf8Size ≤ n
    · obtain ⟨k, rfl⟩ := Nat.exists_eq_add_of_le hc
      have hrest : c.utf8Size + k + 1 - c.utf8Size = k + 1 := by omega
      rw [takeBytes, if_pos (by omega), hrest, byteLength] at h
      rw [takeBytes, if_pos (by omega), hrest, takeBytes, if_pos hc, Nat.add_sub_cancel_left,
        ih (by omega)]
    · by_cases hlast : c.utf8Size = n + 1
      · rw [takeBytes, if_pos (by omega), hlast, Nat.sub_self, takeBytes_zero, byteLength, byteLength] at h
        omega
      · rw [takeBytes, if_neg (by omega), takeBytes, if_neg hc]

theorem floorBoundary_of_isBoundary {t : Text} {n : Nat} (h : isBoundary t n = true) :
    floorBoundary t n = .ok n := by
  cases n <;> rw [floorBoundary, if_pos h]

/-- Going back to a boundary keeps the whole characters, and never leaves the text that the
stretch begins behind. -/
theorem floorBoundary_append (a b : Text) (n : Nat) : floorBoundary (a ++ b) (byteLength a + n) =
    .ok (byteLength a + byteLength (takeBytes n b)) := by
  induction n with
  | zero =>
    have hstart : isBoundary (a ++ b) (byteLength a + 0) = true := by
      rw [isBoundary_add, isBoundary_iff, takeBytes_zero]
      rfl
    rw [floorBoundary_of_isBoundary hstart, takeBytes_zero]
    rfl
  | succ n ih =>
    by_cases h : isBoundary (a ++ b) (byteLength a + (n + 1)) = true
    · rw [floorBoundary_of_isBoundary h]
      rw [isBoundary_add, isBoundary_iff] at h
      rw [h]
    · have hne : byteLength (takeBytes (n + 1) b) ≠ n + 1 := by
        rwa [isBoundary_add, isBoundary_iff] at h
      rw [← Nat.add_assoc] at h ⊢
      rw [floorBoundary, if_neg h, ih, takeBytes_succ hne]

/-! ### Searching -/

/-- Where the first thing that is recognized at an offset or behind it begins and ends. -/
def find (recognize : Option Char → Text → Option Nat) (t : Text) (start : Nat) :
    Except Fault (Option (Nat × Nat)) := do
  let (front, rest) ← cut start t
  return (Fixture.firstPlace? recognize (Text.endOf none front) rest).map fun found =>
    (start + byteLength (rest.take found.1), start + byteLength (rest.take (found.1 + found.2)))

theorem find_append (recognize : Option Char → Text → Option Nat) (a b : Text) :
    find recognize (a ++ b) (byteLength a) =
      .ok ((Fixture.firstPlace? recognize (Text.endOf none a) b).map fun found =>
        (byteLength a + byteLength (b.take found.1),
          byteLength a + byteLength (b.take (found.1 + found.2)))) := by
  rw [find, cut_append]
  rfl

theorem find_zero (recognize : Option Char → Text → Option Nat) (t : Text) :
    find recognize t 0 = .ok ((Fixture.firstPlace? recognize none t).map fun found =>
      (byteLength (t.take found.1), byteLength (t.take (found.1 + found.2)))) := by
  have h := find_append recognize [] t
  simpa only [List.nil_append, byteLength, Nat.zero_add, Text.endOf] using h

/-! ### Beginnings of a text -/

theorem byteLength_take_le {m n : Nat} (h : m ≤ n) (t : Text) :
    byteLength (t.take m) ≤ byteLength (t.take n) := by
  obtain ⟨k, rfl⟩ := Nat.exists_eq_add_of_le h
  rw [List.take_add, Text.byteLength_append]
  exact Nat.le_add_right _ _

/-- The later of two places is the one with more bytes in front. -/
theorem byteLength_take_max (m n : Nat) (t : Text) :
    byteLength (t.take (max m n)) = max (byteLength (t.take m)) (byteLength (t.take n)) := by
  rcases Nat.le_total m n with h | h
  · rw [Nat.max_eq_right h, Nat.max_eq_right (byteLength_take_le h t)]
  · rw [Nat.max_eq_left h, Nat.max_eq_left (byteLength_take_le h t)]

/-- A longer beginning of a text takes more bytes. -/
theorem byteLength_take_lt {t : Text} {m n : Nat} (h : m < n) (hm : m < t.length) :
    byteLength (t.take m) < byteLength (t.take n) := by
  obtain ⟨k, rfl⟩ := Nat.exists_eq_add_of_lt h
  rw [Nat.add_assoc, List.take_add, Text.byteLength_append, List.drop_eq_getElem_cons hm,
    List.take_succ_cons, byteLength]
  have := t[m].utf8Size_pos
  omega

theorem byteLength_take_lt_iff {t : Text} {m n : Nat} (hm : m < t.length) :
    byteLength (t.take m) < byteLength (t.take n) ↔ m < n :=
  ⟨fun h => Nat.lt_of_not_le fun hle => Nat.not_lt.2 (byteLength_take_le hle t) h,
    fun h => byteLength_take_lt h hm⟩

theorem byteLength_take_inj {t : Text} {m n : Nat} (hm : m < t.length) (hn : n < t.length) :
    byteLength (t.take m) = byteLength (t.take n) ↔ m = n := by
  refine ⟨fun h => ?_, fun h => by rw [h]⟩
  rcases Nat.lt_trichotomy m n with hlt | heq | hlt
  · exact absurd h (Nat.ne_of_lt (byteLength_take_lt hlt hm))
  · exact heq
  · exact absurd h.symm (Nat.ne_of_lt (byteLength_take_lt hlt hn))

theorem byteLength_pos {t : Text} (h : t ≠ []) : 0 < byteLength t := by
  obtain ⟨c, rest, rfl⟩ := List.exists_cons_of_ne_nil h
  have := c.utf8Size_pos
  rw [byteLength]
  omega

/-- The offset behind a character of one byte. -/
theorem byteLength_take_succ {c : Char} (hc : Text.Single c) (front rest : Text) :
    byteLength ((front ++ c :: rest).take (front.length + 1)) =
      1 + byteLength ((front ++ c :: rest).take front.length) := by
  have htake : (front ++ c :: rest).take (front.length + 1) = front ++ [c] := by
    rw [List.take_length_add_append]
    rfl
  rw [htake, List.take_left, byteLength_concat, hc, Nat.add_comm]

/-- Behind the first `n` characters stands one that takes a byte. -/
theorem byteLength_take_of_split {c : Char} (hc : Text.Single c) {n : Nat} {t : Text}
    (hlt : n < t.length) (h : t = t.take n ++ c :: t.drop (n + 1)) :
    byteLength (t.take (n + 1)) = byteLength (t.take n) + 1 := by
  have hsucc := byteLength_take_succ hc (t.take n) (t.drop (n + 1))
  rw [← h, List.length_take_of_le (Nat.le_of_lt hlt), Nat.add_comm 1] at hsucc
  exact hsucc

end StyleSnapshot.Offsets
