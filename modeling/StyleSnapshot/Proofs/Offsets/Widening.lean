import Mathlib.Data.List.Infix
import StyleSnapshot.Proofs.Offsets.Assertions

/-! Wider windows.

The windows bound where a call and a marker are looked for. A wider window shows more text behind
that of a narrower one, and what is first in a text is first in what the text begins: a marker that
the narrower window cuts off would have to begin in front of the first marker and end behind it,
but markers do not overlap (`length_le_of_clear`). So an anchor keeps what it was paired with
(`pairing_widened`). -/
namespace StyleSnapshot

theorem Text.takeBytes_prefix_takeBytes {m n : Nat} (h : m ≤ n) (t : Text) :
    takeBytes m t <+: takeBytes n t := by
  induction t generalizing m n with
  | nil => exact List.prefix_refl _
  | cons c t ih =>
    unfold takeBytes
    by_cases hc : c.utf8Size ≤ m
    · rw [if_pos hc, if_pos (Nat.le_trans hc h)]
      exact List.cons_prefix_cons.2 ⟨rfl, ih (Nat.sub_le_sub_right h _)⟩
    · rw [if_neg hc]
      exact List.nil_prefix

namespace Fixture

/-- Neither window is larger than that of the others. -/
structure Windows.Within (narrow wide : Windows) : Prop where
  proximity : narrow.proximity ≤ wide.proximity
  lookahead : narrow.lookahead ≤ wide.lookahead

/-! ### The first marker of a longer text -/

theorem snapshotMarker?_of_emptyMarker {m : Text} (h : EmptyMarker m) (x : Text) :
    snapshotMarker? (m ++ x) = none := by
  obtain ⟨hcomparison, -, -, -⟩ := h
  simp only [comparisons, List.mem_cons, List.not_mem_nil, or_false] at hcomparison
  rcases hcomparison with rfl | rfl | rfl <;> rfl

theorem exists_of_marker? {t : Text} {k : Marker} (h : marker? t = some k) :
    ∃ m rest, IsMarker m ∧ t = m ++ rest := by
  rw [marker?, Option.or_eq_some_iff, Option.map_eq_some_iff, Option.map_eq_some_iff] at h
  rcases h with ⟨n, hn, -⟩ | ⟨-, n, hn, -⟩
  · obtain ⟨m, rest, hm, ht, -⟩ := snapshotMarker?_eq_some_iff.1 hn
    exact ⟨m, rest, .inl hm, ht⟩
  · obtain ⟨m, rest, hm, ht, -⟩ := emptyMarker?_eq_some_iff.1 hn
    exact ⟨m, rest, .inr hm, ht⟩

/-- A marker is read as what it is, whatever follows. -/
theorem marker?_append {t : Text} {k : Marker} (h : marker? t = some k) (x : Text) :
    marker? (t ++ x) = some k := by
  rw [marker?, Option.or_eq_some_iff, Option.map_eq_some_iff, Option.map_eq_some_iff] at h ⊢
  rcases h with ⟨n, hn, hk⟩ | ⟨-, n, hn, hk⟩
  · obtain ⟨m, rest, hm, rfl, hlength⟩ := snapshotMarker?_eq_some_iff.1 hn
    rw [List.append_assoc]
    exact .inl ⟨n, snapshotMarker?_eq_some_iff.2 ⟨m, rest ++ x, hm, rfl, hlength⟩, hk⟩
  · obtain ⟨m, rest, hm, rfl, hlength⟩ := emptyMarker?_eq_some_iff.1 hn
    rw [List.append_assoc, snapshotMarker?_of_emptyMarker hm]
    exact .inr ⟨rfl, n, emptyMarker?_eq_some_iff.2 ⟨m, rest ++ x, hm, rfl, hlength⟩, hk⟩

/-- The first marker of a text is the first of every longer text. -/
theorem firstMarker?_of_prefix {t longer : Text} (h : t <+: longer) {k : Marker}
    (hk : firstMarker? t = some k) : firstMarker? longer = some k := by
  rw [firstMarker?_eq] at hk ⊢
  obtain ⟨⟨n, found⟩, hfound, rfl⟩ := Option.map_eq_some_iff.1 hk
  obtain ⟨between, c, rest, rfl, rfl, hmarker, hclear⟩ := firstPlace?_eq_some_iff.1 hfound
  obtain ⟨behind, rfl⟩ := h
  have hlonger : Text.Clear (fun _ => marker?) none between (c :: (rest ++ behind)) := by
    obtain ⟨m, y, hm, hy⟩ := exists_of_marker? hmarker
    apply Text.clear_iff.2
    intro x d b hsplit
    apply marker?_eq_none_iff.2
    rintro m' hm' ⟨z, hz⟩
    have htext : between ++ (m ++ (y ++ behind)) = x ++ (m' ++ z) :=
      calc between ++ (m ++ (y ++ behind)) = between ++ c :: (rest ++ behind) := by
            rw [← List.append_assoc m, ← hy, List.cons_append]
        _ = x ++ (m' ++ z) := by rw [hz, hsplit, List.append_assoc]
    have hle := length_le_of_clear hm (hy ▸ hclear) hm' htext
    rw [hsplit, List.length_append, List.length_cons] at hle
    omega
  have hplace : firstPlace? (fun _ => marker?) none (between ++ c :: rest ++ behind) =
      some (between.length, found) := by
    rw [List.append_assoc, List.cons_append]
    exact firstPlace?_eq_some_iff.2
      ⟨between, c, rest ++ behind, rfl, rfl, marker?_append hmarker behind, hlonger⟩
  rw [hplace]
  rfl

/-! ### What an anchor is paired with -/

theorem nearestCall?_widen {narrow wide : Nat} (h : narrow ≤ wide) {t : Text} {call : Call}
    (hcall : nearestCall? narrow t = some call) : nearestCall? wide t = some call := by
  obtain ⟨n, hinside, hat, hfirst, hnear⟩ := nearestCall?_eq_some_iff.1 hcall
  exact nearestCall?_eq_some_iff.2 ⟨n, hinside, hat, hfirst, Nat.le_trans hnear h⟩

/-- The next anchor bounds both stretches at the same place. -/
theorem markerStretch_widen {narrow wide : Nat} (h : narrow ≤ wide) (t : Text) :
    markerStretch narrow t <+: markerStretch wide t := by
  have hnear := Text.takeBytes_prefix_takeBytes h t
  unfold markerStretch
  split
  · exact hnear.take _
  · exact hnear

section Wider
variable {narrow wide : Windows} (h : narrow.Within wide)
include h

theorem readArray?_widen {call : Call} {t : Text} {r : Reading}
    (hread : readArray? narrow call t = some r) : readArray? wide call t = some r := by
  obtain ⟨n, marker, expectation, stop, hclose, hne, hmarker, hexpectation, hr⟩ :=
    readArray?_eq_some_iff.1 hread
  have hwide := firstMarker?_of_prefix (markerStretch_widen h.lookahead _) hmarker
  exact readArray?_eq_some_iff.2
    ⟨n, marker, expectation, stop, hclose, hne, hwide, hexpectation, hr⟩

theorem reading?_widen {t : Text} {r : Reading} (hread : reading? narrow t = some r) :
    reading? wide t = some r := by
  unfold reading? at hread ⊢
  split at hread
  · exact absurd hread.symm (Option.some_ne_none r)
  · next call hcall =>
    rw [nearestCall?_widen h.proximity hcall]
    cases hkind : call.kind with
    | themed =>
      simp only [hkind] at hread ⊢
      exact hread
    | tokenArray =>
      simp only [hkind] at hread ⊢
      exact readArray?_widen h hread

end Wider

end Fixture

namespace Offsets

open Text (byteLength)
open Fixture (Reading Windows reading? reading?_widen)

/-- Where all places of a text are offsets together with the window, nothing is missed. -/
theorem UpToOverflow.eq_ok {limit lookahead bound : Nat} {α : Type} {r : Except Fault α} {v : α}
    (h : UpToOverflow limit lookahead bound r v) (hfits : bound + lookahead < limit) : r = .ok v := by
  rcases h with hr | ⟨place, hplace, hlimit, -⟩
  · exact hr
  · omega

theorem exists_of_extract {limit : Nat} {windows : Windows} {a x : Text} {found : Extracted}
    (h : Text.startsWith Fixture.anchorText x = true)
    (hfound : extract limit windows (a ++ x) (byteLength a) = .ok (some found)) :
    ∃ r, reading? windows x = some r ∧ ofReading a x r = found := by
  rcases extract_append limit windows (a := a) h with hread | ⟨_, -, -, hread⟩
  · rw [hfound] at hread
    exact Option.map_eq_some_iff.1 (Except.ok.inj hread).symm
  · rw [hfound] at hread
    cases hread

/-- **Wider windows keep every pairing**: what an anchor is paired with, and where reading goes on
behind it, stays the same when the windows grow, unless a place in the block and the wider window
together are no offset any more. -/
theorem pairing_widened {narrow wide : Windows} (h : narrow.Within wide) :
    (∀ t r, reading? narrow t = some r → reading? wide t = some r) ∧
    ∀ limit a x found, Text.startsWith Fixture.anchorText x = true →
      extract limit narrow (a ++ x) (byteLength a) = .ok (some found) →
      UpToOverflow limit wide.lookahead (byteLength (a ++ x))
        (extract limit wide (a ++ x) (byteLength a)) (some found) := by
  refine ⟨fun t r hread => reading?_widen h hread, fun limit a x found hanchor hfound => ?_⟩
  obtain ⟨r, hread, rfl⟩ := exists_of_extract hanchor hfound
  have hwide := extract_append limit wide (a := a) hanchor
  rw [reading?_widen h hread] at hwide
  exact hwide

/-- A snapshot behind the comparison that decides is seen through the wider window only. -/
theorem pairing_widened_second_marker :
    let narrow : Windows := ⟨13, 14⟩
    let a := "x\n  ".toList
    let x := "expect(await run(['a'])).toEqual('').toMatchInlineSnapshot(\x60y\x60)".toList
    let r : Reading := ⟨.empty, [['a']], ⟨.tokenArray, 13, 18⟩, 36⟩
    let found : Extracted := ⟨.empty, [['a']], 40⟩
    (narrow.Within {} ∧ reading? narrow x = some r ∧ Text.startsWith Fixture.anchorText x = true ∧
      extract UInt64.size narrow (a ++ x) (byteLength a) = .ok (some found)) ∧
    reading? {} x = some r ∧ UpToOverflow UInt64.size 80 (byteLength (a ++ x))
      (extract UInt64.size {} (a ++ x) (byteLength a)) (some found) := by
  intro narrow a x r found
  have hwithin : narrow.Within {} := ⟨by decide, by decide⟩
  have hread : reading? narrow x = some r := by decide +kernel
  have hanchor : Text.startsWith Fixture.anchorText x = true := by decide
  have hfound : extract UInt64.size narrow (a ++ x) (byteLength a) = .ok (some found) := by
    have hextract := extract_append UInt64.size narrow (a := a) hanchor
    have hresume : ofReading a x r = found := by decide +kernel
    rw [hread, Option.map_some, hresume] at hextract
    exact hextract.eq_ok (by decide +kernel)
  obtain ⟨hreading, hoffsets⟩ := pairing_widened hwithin
  exact ⟨⟨hwithin, hread, hanchor, hfound⟩, hreading x r hread, hoffsets _ a x found hanchor hfound⟩

end Offsets

end StyleSnapshot
