import StyleSnapshot.Proofs.Scan
import StyleSnapshot.Proofs.Text.ByteOrder

/-! Scanning the bytes of a text.

Every mark that a scanner looks for is a single byte, and no byte of a longer character is a
mark. So a scan of the bytes finds the byte of the character that a scan of the characters finds
(`closing?_utf8`, `closingQuote?_utf8`). The two part inside a longer character whose first byte
an escape hides, and are together again behind it. -/
namespace StyleSnapshot

namespace Text

theorem utf8_append (a b : Text) : utf8 (a ++ b) = utf8 a ++ utf8 b := List.flatMap_append

theorem drop_utf8_append (a b : Text) : (utf8 (a ++ b)).drop (byteLength a) = utf8 b := by
  rw [utf8_append, ← length_utf8, List.drop_left]

/-! ### Single bytes -/

/-- A character that takes one byte. -/
abbrev Single (c : Char) : Prop := c.utf8Size = 1

/-- The byte of a character that takes one. -/
def octet (c : Char) : UInt8 := c.val.toUInt8

theorem utf8_cons_of_single {c : Char} (h : Single c) (t : Text) : utf8 (c :: t) = octet c :: utf8 t := by
  rw [utf8_cons, String.utf8EncodeChar_eq_singleton h]
  rfl

theorem toNat_octet {c : Char} (h : Single c) : (octet c).toNat = c.toNat ∧ c.toNat < 128 := by
  have hval : c.val.toNat ≤ 127 := Char.utf8Size_eq_one_iff.1 h
  refine ⟨?_, Nat.lt_succ_of_le hval⟩
  show c.val.toUInt8.toNat = c.val.toNat
  rw [UInt32.toNat_toUInt8, Nat.mod_eq_of_lt (by omega)]

theorem octet_inj {c d : Char} (hc : Single c) (hd : Single d) : octet c = octet d ↔ c = d := by
  refine ⟨fun h => Char.toNat_inj.1 ?_, congrArg octet⟩
  rw [← (toNat_octet hc).1, ← (toNat_octet hd).1, h]

/-- The first half of the bytes is for characters that take one. -/
theorem le_toNat_of_mem {c : Char} (h : ¬ Single c) {b : UInt8} (hb : b ∈ String.utf8EncodeChar c) :
    128 ≤ b.toNat := by
  have hval : ¬ c.val.toNat ≤ 127 := fun hle => h (Char.utf8Size_eq_one_iff.2 hle)
  have digit (m k low : Nat) (hlow : 128 ≤ low) (hk : 0 < k) (hfit : k + low ≤ 256) :
      128 ≤ (UInt8.ofNat (m % k + low)).toNat := by
    have := Nat.mod_lt m hk
    rw [UInt8.toNat_ofNat', Nat.mod_eq_of_lt (by omega)]
    omega
  simp only [String.utf8EncodeChar, if_neg hval] at hb
  split at hb
  · simp only [List.mem_cons, List.not_mem_nil, or_false] at hb
    rcases hb with rfl | rfl <;> exact digit _ _ _ (by decide) (by decide) (by decide)
  · split at hb
    · simp only [List.mem_cons, List.not_mem_nil, or_false] at hb
      rcases hb with rfl | rfl | rfl <;> exact digit _ _ _ (by decide) (by decide) (by decide)
    · simp only [List.mem_cons, List.not_mem_nil, or_false] at hb
      rcases hb with rfl | rfl | rfl | rfl <;> exact digit _ _ _ (by decide) (by decide) (by decide)

theorem ne_octet_of_mem {c d : Char} (hc : ¬ Single c) (hd : Single d) {b : UInt8}
    (hb : b ∈ String.utf8EncodeChar c) : b ≠ octet d := by
  rintro rfl
  have hhigh := le_toNat_of_mem hc hb
  have hlow := toNat_octet hd
  omega

theorem octet_mem_utf8EncodeChar_iff {q c : Char} (hq : Single q) :
    octet q ∈ String.utf8EncodeChar c ↔ q = c := by
  by_cases hc : Single c
  · rw [String.utf8EncodeChar_eq_singleton hc, List.mem_singleton]
    exact octet_inj hq hc
  · refine ⟨fun h => absurd rfl (ne_octet_of_mem hc hq h), ?_⟩
    rintro rfl
    exact absurd hq hc

theorem octet_mem_utf8_iff {q : Char} (hq : Single q) {t : Text} :
    octet q ∈ utf8 t ↔ q ∈ t := by
  rw [utf8, List.mem_flatMap]
  constructor
  · rintro ⟨c, hc, hmem⟩
    rwa [(octet_mem_utf8EncodeChar_iff hq).1 hmem]
  · exact fun h => ⟨q, h, (octet_mem_utf8EncodeChar_iff hq).2 rfl⟩

theorem getElem?_utf8 (a b : Text) (k : Nat) :
    (utf8 (a ++ b))[byteLength a + k]? = (utf8 b)[k]? := by
  rw [utf8_append, ← length_utf8, List.getElem?_append_right (Nat.le_add_right _ k),
    Nat.add_sub_cancel_left]

end Text

open Text

/-! ### Quotations -/

section Elements
variable {α : Type} [DecidableEq α]

/-- Elements that are neither the escape nor the quote are passed over, and uncover what was
hidden. -/
theorem closingQuote?_append_of_forall {escape quote : α} {u : List α}
    (h : ∀ c ∈ u, c ≠ escape ∧ c ≠ quote) (hne : u ≠ []) (hidden : Bool) (t : List α) :
    closingQuote? escape quote hidden (u ++ t) =
      (closingQuote? escape quote false t).map (u.length + ·) := by
  induction u generalizing hidden with
  | nil => exact absurd rfl hne
  | cons c u ih =>
    have hc := h c List.mem_cons_self
    have hfirst : closingQuote? escape quote hidden (c :: (u ++ t)) =
        (closingQuote? escape quote false (u ++ t)).map (· + 1) := by
      cases hidden with
      | true => rfl
      | false => rw [closingQuote?, if_neg hc.1, if_neg hc.2]
    have hrest : closingQuote? escape quote false (u ++ t) =
        (closingQuote? escape quote false t).map (u.length + ·) := by
      by_cases hu : u = []
      · simp [hu]
      · exact ih (fun d hd => h d (List.mem_cons_of_mem c hd)) hu false
    rw [List.cons_append, hfirst, hrest, Option.map_map]
    refine Option.map_congr fun n _ => ?_
    simp only [Function.comp, List.length_cons]
    omega

end Elements

/-- What is found in the rest of a text lies behind the bytes of its first character. -/
theorem map_byteLength_cons (c : Char) (t : Text) (found : Option Nat) :
    (found.map fun n => byteLength (t.take n)).map (c.utf8Size + ·) =
      (found.map (· + 1)).map fun n => byteLength ((c :: t).take n) := by
  rw [Option.map_map, Option.map_map]
  rfl

theorem map_byteLength_cons_of_single {c : Char} (h : Single c) (t : Text) (found : Option Nat) :
    (found.map fun n => byteLength (t.take n)).map (· + 1) =
      (found.map (· + 1)).map fun n => byteLength ((c :: t).take n) := by
  rw [← map_byteLength_cons, h]
  exact Option.map_congr fun n _ => Nat.add_comm n 1

/-- A quotation ends at the byte of the quote that ends it as characters. -/
theorem closingQuote?_utf8 {escape quote : Char} (he : Single escape) (hq : Single quote)
    (hidden : Bool) (t : Text) : closingQuote? (octet escape) (octet quote) hidden (utf8 t) =
      (closingQuote? escape quote hidden t).map fun n => byteLength (t.take n) := by
  induction t generalizing hidden with
  | nil => rfl
  | cons c t ih =>
    by_cases hc : Single c
    · rw [utf8_cons_of_single hc]
      cases hidden with
      | true =>
        show (closingQuote? _ _ false (utf8 t)).map (· + 1) =
          ((closingQuote? escape quote false t).map (· + 1)).map _
        rw [ih, map_byteLength_cons_of_single hc]
      | false =>
        simp only [closingQuote?, octet_inj hc he, octet_inj hc hq]
        split
        · rw [ih, map_byteLength_cons_of_single hc]
        · split
          · rfl
          · rw [ih, map_byteLength_cons_of_single hc]
    · have hbytes : ∀ b ∈ String.utf8EncodeChar c, b ≠ octet escape ∧ b ≠ octet quote :=
        fun b hb => ⟨ne_octet_of_mem hc he hb, ne_octet_of_mem hc hq hb⟩
      have hchars : ∀ d ∈ [c], d ≠ escape ∧ d ≠ quote := by
        intro d hd
        rw [List.mem_singleton.1 hd]
        exact ⟨fun h => hc (h ▸ he), fun h => hc (h ▸ hq)⟩
      have hchar : closingQuote? escape quote hidden (c :: t) =
          (closingQuote? escape quote false t).map (· + 1) := by
        rw [← List.singleton_append, closingQuote?_append_of_forall hchars (List.cons_ne_nil c [])]
        exact Option.map_congr fun n _ => Nat.add_comm 1 n
      rw [utf8_cons, closingQuote?_append_of_forall hbytes String.utf8EncodeChar_ne_nil,
        String.length_utf8EncodeChar, ih, map_byteLength_cons, hchar]

/-! ### Delimiters -/

/-- Marks that are single bytes. -/
structure Marks.Singles (marks : Marks Char) : Prop where
  escape : Single marks.escape
  quotes : ∀ q ∈ marks.quotes, Single q

/-- Delimiters that are single bytes. -/
structure Brackets.Singles (pair : Brackets Char) : Prop where
  opening : Single pair.opening
  closing : Single pair.closing

def Marks.utf8 (marks : Marks Char) : Marks UInt8 := ⟨octet marks.escape, marks.quotes.map octet⟩

def Brackets.utf8 (pair : Brackets Char) : Brackets UInt8 := ⟨octet pair.opening, octet pair.closing⟩

def Place.utf8 : Place Char → Place UInt8
  | .plain => .plain
  | .quoted q => .quoted (octet q)
  | .escaped q => .escaped (octet q)

section Scan
variable {marks : Marks Char} {pair : Brackets Char}

theorem Marks.Singles.mem_iff (h : marks.Singles) {c : Char} (hc : Single c) :
    octet c ∈ marks.utf8.quotes ↔ c ∈ marks.quotes := by
  refine ⟨fun hmem => ?_, fun hmem => List.mem_map_of_mem hmem⟩
  obtain ⟨q, hq, heq⟩ := List.mem_map.1 hmem
  rwa [← (octet_inj (h.quotes q hq) hc).1 heq]

/-- At a character of one byte both scans take the same step. -/
theorem step_octet (hmarks : marks.Singles) (hpair : pair.Singles) {c : Char} (hc : Single c)
    {place : Place Char} (hplace : place.Within marks) (nested : Nat) :
    place.utf8.step marks.utf8 pair.utf8 (octet c) nested =
      (place.step marks pair c nested).map fun s => (s.1.utf8, s.2) := by
  cases place with
  | plain =>
    simp only [Place.utf8, Place.step, hmarks.mem_iff hc, Brackets.utf8, octet_inj hc hpair.opening,
      octet_inj hc hpair.closing]
    split
    · rfl
    · split
      · rfl
      · split
        · cases nested <;> rfl
        · rfl
  | quoted q =>
    simp only [Place.utf8, Place.step, Place.next, Marks.utf8, octet_inj hc hmarks.escape,
      octet_inj hc (hmarks.quotes q hplace), Option.map_some]
    split
    · rfl
    · split <;> rfl
  | escaped q => rfl

/-- A delimiter is closed at the byte of the one that closes it as characters. -/
theorem closing?_utf8 (hmarks : marks.Singles) (hpair : pair.Singles) {place : Place Char}
    (hplace : place.Within marks) (nested : Nat) (t : Text) :
    closing? marks.utf8 pair.utf8 place.utf8 nested (utf8 t) =
      (closing? marks pair place nested t).map fun n => byteLength (t.take n) := by
  induction t generalizing place nested with
  | nil => cases place <;> rfl
  | cons c t ih =>
    by_cases hc : Single c
    · rw [utf8_cons_of_single hc, closing?_cons, closing?_cons, step_octet hmarks hpair hc hplace]
      cases hstep : place.step marks pair c nested with
      | none => rfl
      | some s =>
        show (closing? marks.utf8 pair.utf8 s.1.utf8 s.2 (utf8 t)).map (· + 1) =
          ((closing? marks pair s.1 s.2 t).map (· + 1)).map _
        rw [ih (hplace.step hstep), map_byteLength_cons_of_single hc]
    · have hbytes : ∀ b ∈ String.utf8EncodeChar c, Ordinary marks.utf8 pair.utf8 b := by
        intro b hb
        refine ⟨ne_octet_of_mem hc hmarks.escape hb, fun hmem => ?_,
          ne_octet_of_mem hc hpair.opening hb, ne_octet_of_mem hc hpair.closing hb⟩
        obtain ⟨q, hq, heq⟩ := List.mem_map.1 hmem
        exact ne_octet_of_mem hc (hmarks.quotes q hq) hb heq.symm
      have hchar : Ordinary marks pair c := by
        refine ⟨fun h => hc (h ▸ hmarks.escape), fun h => hc (hmarks.quotes c h),
          fun h => hc (h ▸ hpair.opening), fun h => hc (h ▸ hpair.closing)⟩
      have hwithin : place.utf8.Within marks.utf8 := by
        cases place with
        | plain => trivial
        | quoted q => exact List.mem_map_of_mem hplace
        | escaped q => exact List.mem_map_of_mem hplace
      have hwalk := walk_of_ordinary hbytes String.utf8EncodeChar_ne_nil hwithin nested
      have huncovered : place.utf8.uncovered = place.uncovered.utf8 := by cases place <;> rfl
      have hbehind := closing?_append_of_walk hwalk (utf8 t)
      rw [String.length_utf8EncodeChar, huncovered, ih hplace.uncovered, map_byteLength_cons] at hbehind
      rw [utf8_cons, closing?_cons, hchar.step hplace]
      exact hbehind

/-! ### Byte offsets -/

theorem singles_chars : Marks.chars.Singles where
  escape := by decide
  quotes q hq := by
    simp only [Marks.chars, List.mem_cons, List.not_mem_nil, or_false] at hq
    rcases hq with rfl | rfl | rfl <;> decide

theorem singles_literal : (Marks.chars.under .literal).Singles where
  escape := by decide
  quotes _ hq := absurd hq List.not_mem_nil

theorem singles_braces : Brackets.braces.Singles := ⟨by decide, by decide⟩

theorem singles_square : Brackets.square.Singles := ⟨by decide, by decide⟩

theorem singles_round : Brackets.round.Singles := ⟨by decide, by decide⟩

/-- The quote that ends the quotation opened at a byte offset. -/
theorem closingQuoteAt?_utf8 {quote : Char} (hq : Single quote) (a b : Text) :
    closingQuoteAt? Marks.bytes.escape (utf8 (a ++ quote :: b)) (byteLength a) =
      (closingQuote? '\\' quote false b).map fun n => byteLength a + 1 + byteLength (b.take n) := by
  have hescape : Marks.bytes.escape = octet '\\' := by decide
  rw [closingQuoteAt?, drop_utf8_append, utf8_cons_of_single hq, hescape]
  show (closingQuote? (octet '\\') (octet quote) false (utf8 b)).map _ = _
  rw [closingQuote?_utf8 (by decide) hq, Option.map_map]
  rfl

/-- The delimiter that closes the one at a byte offset. -/
theorem closingAt?_utf8 (hmarks : marks.Singles) (hpair : pair.Singles)
    (hne : pair.opening ≠ pair.closing) (a b : Text) :
    closingAt? marks.utf8 pair.utf8 (utf8 (a ++ pair.opening :: b)) (byteLength a) =
      (closing? marks pair .plain 0 b).map fun n => byteLength a + 1 + byteLength (b.take n) := by
  have hclosing : pair.utf8.opening ≠ pair.utf8.closing :=
    fun h => hne ((octet_inj hpair.opening hpair.closing).1 h)
  rw [closingAt?, drop_utf8_append, utf8_cons_of_single hpair.opening]
  show (if pair.utf8.opening ≠ pair.utf8.opening then none else if pair.utf8.opening = pair.utf8.closing then _
    else (closing? marks.utf8 pair.utf8 .plain 0 (utf8 b)).map _) = _
  rw [if_neg (not_not_intro rfl), if_neg hclosing]
  have hplain : Place.plain.Within marks := trivial
  have hscan := closing?_utf8 hmarks hpair hplain 0 b
  rw [Place.utf8] at hscan
  rw [hscan, Option.map_map]
  rfl

end Scan

end StyleSnapshot
