import StyleSnapshot.Dictionary

/-! The order of texts is the order of their bytes.

Dictionaries keep their keys in the order of texts, which compares characters by code
point. `utf8_lt_utf8_iff` says that comparing the UTF-8 forms byte by byte gives the same
order: a character never encodes to a prefix of the form of another one, and the first
byte in which two forms differ orders them like their code points. -/
namespace StyleSnapshot.Text

/-- Two lists differ first at some place, and the left one has the smaller element there. -/
def DiffersBelow (a b : List UInt8) : Prop :=
  ∃ common x y s t, a = common ++ x :: s ∧ b = common ++ y :: t ∧ x < y

theorem DiffersBelow.append {a b : List UInt8} (h : DiffersBelow a b) (s t : List UInt8) :
    a ++ s < b ++ t := by
  obtain ⟨common, x, y, s', t', rfl, rfl, hxy⟩ := h
  rw [List.append_assoc, List.append_assoc]
  exact List.append_left_lt (List.cons_lt_cons_iff.2 (Or.inl hxy))

theorem DiffersBelow.head {x y : UInt8} {s t : List UInt8} (h : x < y) :
    DiffersBelow (x :: s) (y :: t) := ⟨[], x, y, s, t, rfl, rfl, h⟩

theorem DiffersBelow.cons {a b : List UInt8} (x : UInt8) (h : DiffersBelow a b) :
    DiffersBelow (x :: a) (x :: b) := by
  obtain ⟨common, y, z, s, t, rfl, rfl, hyz⟩ := h
  exact ⟨x :: common, y, z, s, t, rfl, rfl, hyz⟩

theorem ofNat_lt_ofNat {m n : Nat} (h : m < n) (hn : n < 256) : UInt8.ofNat m < UInt8.ofNat n := by
  rw [UInt8.lt_iff_toNat_lt, UInt8.toNat_ofNat', UInt8.toNat_ofNat',
    Nat.mod_eq_of_lt hn, Nat.mod_eq_of_lt (Nat.lt_trans h hn)]
  exact h

/-- Two digits in front of more of them, the left pair being the smaller one. -/
theorem DiffersBelow.digit {m n : Nat} {s t : List UInt8} (hn : n < 256)
    (h : m < n ∨ m = n ∧ DiffersBelow s t) :
    DiffersBelow (UInt8.ofNat m :: s) (UInt8.ofNat n :: t) := by
  rcases h with h | ⟨rfl, h⟩
  · exact .head (ofNat_lt_ofNat h hn)
  · exact .cons _ h

/-- Where code points differ, so do the forms, in the same direction. -/
theorem utf8EncodeChar_differsBelow {c d : Char} (h : c < d) :
    DiffersBelow (String.utf8EncodeChar c) (String.utf8EncodeChar d) := by
  have hlt : c.val.toNat < d.val.toNat := h
  have hd : d.val.toNat < 0x110000 := by
    rcases d.valid with hd | hd <;> omega
  simp only [String.utf8EncodeChar]
  generalize c.val.toNat = m at hlt ⊢
  generalize d.val.toNat = n at hlt hd ⊢
  -- A shorter form has the smaller first byte. In forms of one length the first digit to
  -- the base 64 that differs decides.
  by_cases h1 : n ≤ 0x7f
  · rw [if_pos (by omega), if_pos h1]
    exact .digit (by omega) (Or.inl hlt)
  rw [if_neg h1]
  by_cases h2 : n ≤ 0x7ff
  · rw [if_pos h2]
    split
    · exact .digit (by omega) (Or.inl (by omega))
    · rw [if_pos (by omega)]
      rcases (by omega : m / 64 < n / 64 ∨ m / 64 = n / 64 ∧ m % 64 < n % 64) with h | ⟨h, h0⟩
      · exact .digit (by omega) (Or.inl (by omega))
      · exact .digit (by omega) (Or.inr ⟨by omega, .digit (by omega) (Or.inl (by omega))⟩)
  rw [if_neg h2]
  by_cases h3 : n ≤ 0xffff
  · rw [if_pos h3]
    split
    · exact .digit (by omega) (Or.inl (by omega))
    · split
      · exact .digit (by omega) (Or.inl (by omega))
      · rw [if_pos (by omega)]
        rcases (by omega : m / 4096 < n / 4096 ∨ m / 4096 = n / 4096 ∧ m / 64 % 64 < n / 64 % 64 ∨
          m / 64 = n / 64 ∧ m % 64 < n % 64) with h | ⟨h, h1⟩ | ⟨h, h0⟩
        · exact .digit (by omega) (Or.inl (by omega))
        · exact .digit (by omega) (Or.inr ⟨by omega, .digit (by omega) (Or.inl (by omega))⟩)
        · exact .digit (by omega) (Or.inr ⟨by omega, .digit (by omega)
            (Or.inr ⟨by omega, .digit (by omega) (Or.inl (by omega))⟩)⟩)
  · rw [if_neg h3]
    split
    · exact .digit (by omega) (Or.inl (by omega))
    · split
      · exact .digit (by omega) (Or.inl (by omega))
      · split
        · exact .digit (by omega) (Or.inl (by omega))
        · rcases (by omega : m / 262144 < n / 262144 ∨
            m / 262144 = n / 262144 ∧ m / 4096 % 64 < n / 4096 % 64 ∨
            m / 4096 = n / 4096 ∧ m / 64 % 64 < n / 64 % 64 ∨
            m / 64 = n / 64 ∧ m % 64 < n % 64) with h | ⟨h, h2⟩ | ⟨h, h1⟩ | ⟨h, h0⟩
          · exact .digit (by omega) (Or.inl (by omega))
          · exact .digit (by omega) (Or.inr ⟨by omega, .digit (by omega) (Or.inl (by omega))⟩)
          · exact .digit (by omega) (Or.inr ⟨by omega, .digit (by omega)
              (Or.inr ⟨by omega, .digit (by omega) (Or.inl (by omega))⟩)⟩)
          · exact .digit (by omega) (Or.inr ⟨by omega, .digit (by omega) (Or.inr ⟨by omega,
              .digit (by omega) (Or.inr ⟨by omega, .digit (by omega) (Or.inl (by omega))⟩)⟩)⟩)

theorem utf8_cons (c : Char) (t : Text) : utf8 (c :: t) = String.utf8EncodeChar c ++ utf8 t := by
  simp only [utf8, List.flatMap_cons]

theorem utf8_lt_of_lt {a b : Text} (h : a < b) : utf8 a < utf8 b := by
  induction h with
  | @nil d b =>
    obtain ⟨x, s, hx⟩ := List.exists_cons_of_ne_nil (String.utf8EncodeChar_ne_nil (c := d))
    rw [utf8_cons, hx]
    exact List.Lex.nil
  | @rel c a d b hcd =>
    rw [utf8_cons, utf8_cons]
    exact (utf8EncodeChar_differsBelow hcd).append _ _
  | @cons c a b _ ih =>
    rw [utf8_cons, utf8_cons]
    exact List.append_left_lt ih

/-- Texts are ordered like their bytes. -/
theorem utf8_lt_utf8_iff {a b : Text} : utf8 a < utf8 b ↔ a < b := by
  refine ⟨fun h => Classical.byContradiction fun hab => ?_, utf8_lt_of_lt⟩
  by_cases heq : a = b
  · subst heq
    exact List.lt_irrefl _ h
  · exact List.lt_asymm h (utf8_lt_of_lt (Dictionary.lt_of_not_lt_of_ne hab heq))

end StyleSnapshot.Text
