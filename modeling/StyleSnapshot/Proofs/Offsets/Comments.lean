import StyleSnapshot.Proofs.Offsets.Loop
import StyleSnapshot.Proofs.Stylesheet.Blocks

/-! Comments by offsets.

Between blocks an index is moved over blanks and closed comments, a comment in every round
(`runs_skipRound`); in the body of a rule what is left of the text is cut behind one comment after
the other (`runs_commentRound`). The marks of a comment are found in the text behind a place, so
that the places in the whole text are sums. -/
namespace StyleSnapshot.Offsets

open Text (byteLength)
open Stylesheet (commentOpen commentClose skipTrivia stripComments)

/-- The offset at which a mark first stands in a text. -/
def findMark (mark t : Text) : Option Nat := (Text.cut? mark t).map fun parts => byteLength parts.1

/-- Passes over the blanks at an index and the comment behind them. -/
def skipRound (css : Text) (index : Nat) : Except Fault (Outcome Nat Nat) := do
  let rest ← suffix css index
  let trimmed := Text.trimStart rest
  let blanks ← difference (byteLength rest) (byteLength trimmed)
  if Text.startsWith commentOpen trimmed then
    let inside ← suffix trimmed 2
    match findMark commentClose inside with
    | some stop => return .again (index + blanks + (stop + 4))
    | none => return .done (byteLength css)
  else return .done (index + blanks)

/-- The index behind the blanks and comments at an index. -/
def skip (css : Text) (index : Nat) : Except Fault Nat := loop (skipRound css) (byteLength css - ·) index

/-- The next index is behind this one and within the text. -/
def Forward (css : Text) (index next : Nat) : Prop := index < next ∧ next ≤ byteLength css

theorem Forward.left_lt {css : Text} {index next : Nat} (h : Forward css index next) :
    byteLength css - next < byteLength css - index :=
  Nat.sub_lt_sub_left (Nat.lt_of_lt_of_le h.1 h.2) h.1

/-- Takes the next comment out of the rest of a text, and moves what is in front of it to the
output. -/
def commentRound (s : Text × Text) : Except Fault (Outcome (Text × Text) Text) :=
  match findMark commentOpen s.2 with
  | none => .ok (.done (s.1 ++ s.2))
  | some start => do
    let front ← slice s.2 0 start
    let inside ← suffix s.2 (start + 2)
    match findMark commentClose inside with
    | none => return .done (s.1 ++ front)
    | some stop =>
      let following ← suffix s.2 (start + 2 + stop + 2)
      return .again (s.1 ++ front, following)

/-- A text without its comments. -/
def removeComments (t : Text) : Except Fault Text := loop commentRound (byteLength ·.2) ([], t)

/-! ### Between blocks -/

theorem findMark_of_some {mark t a b : Text} (h : Text.cut? mark t = some (a, b)) :
    findMark mark t = some (byteLength a) := by
  rw [findMark, h]
  rfl

theorem findMark_of_none {mark t : Text} (h : Text.cut? mark t = none) : findMark mark t = none := by
  rw [findMark, h]
  rfl

@[simp] theorem byteLength_commentOpen : byteLength commentOpen = 2 := rfl

@[simp] theorem byteLength_commentClose : byteLength commentClose = 2 := rfl

theorem suffix_comment (inside : Text) : suffix (commentOpen ++ inside) 2 = .ok inside :=
  suffix_append commentOpen inside

/-- One round at a place that is told by the text in front of it. -/
theorem skipRound_append (a x : Text) : skipRound (a ++ x) (byteLength a) =
    .ok (match Text.after? commentOpen (Text.trimStart x) with
      | none => .done (byteLength (a ++ x.takeWhile isBlank))
      | some inside =>
        match findMark commentClose inside with
        | some stop => .again (byteLength (a ++ x.takeWhile isBlank) + (stop + 4))
        | none => .done (byteLength (a ++ x))) := by
  have hblanks : difference (byteLength x) (byteLength (Text.trimStart x)) =
      .ok (byteLength (x.takeWhile isBlank)) := by
    have hsum : byteLength x = byteLength (Text.trimStart x) + byteLength (x.takeWhile isBlank) := by
      rw [Nat.add_comm, ← Text.byteLength_append, Text.trimStart, List.takeWhile_append_dropWhile]
    rw [hsum, difference_add]
  rw [skipRound, suffix_append, Text.byteLength_append a (x.takeWhile isBlank)]
  simp only [bind, Except.bind, hblanks, Text.startsWith]
  rcases (Text.after? commentOpen (Text.trimStart x)).eq_none_or_eq_some with hopen | ⟨inside, hopen⟩
  · simp only [hopen, Option.isSome_none, Bool.false_eq_true, if_false]
    rfl
  · have hinside := suffix_comment inside
    rw [← Text.after?_eq_some_iff.1 hopen] at hinside
    simp only [hopen, Option.isSome_some, if_true, hinside]
    cases findMark commentClose inside <;> rfl

/-- The star of an opening mark does not begin a closing one. -/
example : skipRound "/*/ */a".toList 0 = .ok (.again 6) := by decide

/-- The blanks in front of a comment, and the comment with its four bytes of marks. -/
theorem exists_lead_of_closed {x inside comment following : Text}
    (hopen : Text.after? commentOpen (Text.trimStart x) = some inside)
    (hclose : Text.cut? commentClose inside = some (comment, following)) :
    ∃ lead, x = lead ++ following ∧
      byteLength lead = byteLength (x.takeWhile isBlank) + (byteLength comment + 4) := by
  refine ⟨x.takeWhile isBlank ++ (commentOpen ++ (comment ++ commentClose)), ?_, ?_⟩
  · calc x = x.takeWhile isBlank ++ Text.trimStart x := List.takeWhile_append_dropWhile.symm
      _ = x.takeWhile isBlank ++ (commentOpen ++ (comment ++ commentClose ++ following)) := by
        rw [Text.after?_eq_some_iff.1 hopen, Text.eq_of_cut? hclose]
      _ = _ := by simp only [List.append_assoc]
  · simp only [Text.byteLength_append, byteLength_commentOpen, byteLength_commentClose]
    omega

/-- From the index on, what is passed over ends at the stop. -/
def Skips (css : Text) (index stop : Nat) : Prop :=
  ∃ front rest, css = front ++ rest ∧ index = byteLength front ∧
    byteLength css = stop + byteLength (skipTrivia rest)

/-- A round that goes on has passed over a comment. -/
theorem skipRound_cases {css : Text} {index stop : Nat} (h : Skips css index stop) :
    skipRound css index = .ok (.done stop) ∨
      ∃ next, skipRound css index = .ok (.again next) ∧ Forward css index next ∧ Skips css next stop := by
  obtain ⟨front, rest, rfl, rfl, hstop⟩ := h
  rw [skipRound_append]
  cases hopen : Text.after? commentOpen (Text.trimStart rest) with
  | none =>
    rw [Stylesheet.skipTrivia_of_none hopen] at hstop
    have hlength : byteLength (front ++ rest) =
        byteLength (front ++ rest.takeWhile isBlank) + byteLength (Text.trimStart rest) := by
      rw [← Text.byteLength_append, List.append_assoc, Text.trimStart, List.takeWhile_append_dropWhile]
    exact .inl (by rw [Nat.add_right_cancel (hlength.symm.trans hstop)])
  | some inside =>
    cases hclose : Text.cut? commentClose inside with
    | none =>
      rw [Stylesheet.skipTrivia_of_open hopen hclose] at hstop
      refine .inl ?_
      simp only [findMark_of_none hclose, hstop, byteLength, Nat.add_zero]
    | some parts =>
      obtain ⟨comment, following⟩ := parts
      obtain ⟨lead, hlead, hlength⟩ := exists_lead_of_closed hopen hclose
      rw [Stylesheet.skipTrivia_of_closed hopen hclose] at hstop
      have hnext : byteLength (front ++ rest.takeWhile isBlank) + (byteLength comment + 4) =
          byteLength (front ++ lead) := by
        rw [Text.byteLength_append, Text.byteLength_append, hlength, Nat.add_assoc]
      have htext : front ++ rest = front ++ lead ++ following := by rw [hlead, List.append_assoc]
      have hforward : Forward (front ++ rest) (byteLength front) (byteLength (front ++ lead)) := by
        rw [Forward, htext, Text.byteLength_append _ following, Text.byteLength_append front lead]
        omega
      refine .inr ⟨byteLength (front ++ lead), ?_, hforward, front ++ lead, following, htext, rfl, hstop⟩
      simp only [findMark_of_some hclose, hnext]

/-- Blanks and comments are passed over in rounds that move forward. -/
theorem runs_skipRound (a x : Text) : ∃ lead, x = lead ++ skipTrivia x ∧
    Runs (skipRound (a ++ x)) (Forward (a ++ x)) (byteLength a) (byteLength (a ++ lead)) := by
  obtain ⟨lead, hlead, -⟩ := Stylesheet.exists_trivia x
  refine ⟨lead, hlead, runs_of_invariant (byteLength (a ++ x) - ·) (fun _ _ h => h.left_lt)
    (fun _ _ => skipRound_cases) ⟨a, x, rfl, rfl, ?_⟩⟩
  conv_lhs => rw [hlead, ← List.append_assoc, Text.byteLength_append]

theorem skip_append (a x : Text) : ∃ lead, x = lead ++ skipTrivia x ∧
    skip (a ++ x) (byteLength a) = .ok (byteLength (a ++ lead)) := by
  obtain ⟨lead, hlead, hruns⟩ := runs_skipRound a x
  exact ⟨lead, hlead, hruns.loop_eq fun _ _ h => h.left_lt⟩

/-! ### In the body of a rule -/

/-- One round at the first comment of the rest. -/
theorem commentRound_of_some {output rest before inside : Text}
    (hopen : Text.cut? commentOpen rest = some (before, inside)) :
    commentRound (output, rest) =
      .ok (match Text.cut? commentClose inside with
        | none => .done (output ++ before)
        | some (_, following) => .again (output ++ before, following)) := by
  have hrest := Text.eq_of_cut? hopen
  have hfront : slice rest 0 (byteLength before) = .ok before := by
    have h := slice_append [] before (commentOpen ++ inside)
    rwa [List.nil_append, ← List.append_assoc, ← hrest, byteLength, Nat.zero_add] at h
  have hinside : suffix rest (byteLength before + 2) = .ok inside := by
    have h := suffix_add before commentOpen inside
    rwa [← List.append_assoc, ← hrest] at h
  simp only [commentRound, findMark_of_some hopen, hfront, hinside, bind, Except.bind]
  cases hclose : Text.cut? commentClose inside with
  | none =>
    rw [findMark_of_none hclose]
    rfl
  | some parts =>
    obtain ⟨comment, following⟩ := parts
    have hwritten : rest = before ++ commentOpen ++ comment ++ (commentClose ++ following) := by
      rw [hrest, Text.eq_of_cut? hclose]
      simp only [List.append_assoc]
    have hfollowing : suffix rest (byteLength before + 2 + byteLength comment + 2) = .ok following := by
      have h := suffix_add (before ++ commentOpen ++ comment) commentClose following
      rwa [Text.byteLength_append, Text.byteLength_append, ← hwritten] at h
    simp only [findMark_of_some hclose, hfollowing]
    rfl

/-- One comment is taken out, or there is none any more. -/
theorem commentRound_cases {s : Text × Text} {result : Text} (h : result = s.1 ++ stripComments s.2) :
    commentRound s = .ok (.done result) ∨
      ∃ next, commentRound s = .ok (.again next) ∧ byteLength next.2 < byteLength s.2 ∧
        result = next.1 ++ stripComments next.2 := by
  obtain ⟨output, rest⟩ := s
  subst h
  cases hopen : Text.cut? commentOpen rest with
  | none =>
    have hplain := Stylesheet.stripComments_of_not_infix (Text.cut?_eq_none_iff.1 hopen)
    refine .inl ?_
    simp only [commentRound, findMark_of_none hopen, hplain]
  | some parts =>
    obtain ⟨before, inside⟩ := parts
    rw [commentRound_of_some hopen]
    cases hclose : Text.cut? commentClose inside with
    | none => exact .inl (by rw [Stylesheet.stripComments_of_open hopen hclose])
    | some parts =>
      obtain ⟨comment, following⟩ := parts
      have hless : byteLength following < byteLength rest := by
        rw [Text.eq_of_cut? hopen, Text.eq_of_cut? hclose]
        simp only [Text.byteLength_append, byteLength_commentOpen]
        omega
      refine .inr ⟨(output ++ before, following), rfl, hless, ?_⟩
      rw [Stylesheet.stripComments_of_closed hopen hclose, List.append_assoc]

/-- Comments are taken out in rounds that leave less. -/
theorem runs_commentRound (t : Text) :
    Runs commentRound (fun s next => byteLength next.2 < byteLength s.2) ([], t) (stripComments t) :=
  runs_of_invariant (fun s : Text × Text => byteLength s.2) (fun _ _ h => h) (fun _ _ => commentRound_cases) rfl

theorem removeComments_eq (t : Text) : removeComments t = .ok (stripComments t) :=
  (runs_commentRound t).loop_eq fun _ _ h => h

end StyleSnapshot.Offsets
