/-! Texts and their measure in bytes.

A text is a list of characters, read from the front. What lies further on is reached
by dropping characters, so a scanner is a function of the text that is left. Offsets
that leave the library, and the windows a user sets, are counted in the bytes of the
UTF-8 form: `byteLength` is that measure and `takeBytes` cuts by it without ever
dividing a character. -/
namespace StyleSnapshot

/-- A text, character by character. -/
abbrev Text := List Char

namespace Text

/-- Texts that test as equal are equal. -/
instance : LawfulBEq Text := inferInstance

/-- So are rows of texts. -/
instance : LawfulBEq (List Text) := inferInstance

/-! ### Bytes -/

/-- The UTF-8 form of a text. -/
def utf8 (t : Text) : List UInt8 := t.flatMap String.utf8EncodeChar

/-- The number of bytes of the UTF-8 form. -/
def byteLength : Text → Nat
  | [] => 0
  | c :: rest => c.utf8Size + byteLength rest

/-- The longest run of whole characters at the front that takes at most `n` bytes. -/
def takeBytes : Nat → Text → Text
  | _, [] => []
  | n, c :: rest => if c.utf8Size ≤ n then c :: takeBytes (n - c.utf8Size) rest else []

theorem length_utf8 (t : Text) : (utf8 t).length = byteLength t := by
  induction t with
  | nil => rfl
  | cons c rest ih =>
    simp only [utf8, List.flatMap_cons, List.length_append, String.length_utf8EncodeChar,
      byteLength]
    exact congrArg (c.utf8Size + ·) ih

theorem byteLength_append (a b : Text) : byteLength (a ++ b) = byteLength a + byteLength b := by
  induction a with
  | nil => simp [byteLength]
  | cons c rest ih =>
    simp only [List.cons_append, byteLength, ih]
    omega

theorem takeBytes_prefix (n : Nat) (t : Text) : takeBytes n t <+: t := by
  induction t generalizing n with
  | nil => exact List.prefix_refl _
  | cons c rest ih =>
    simp only [takeBytes]
    split
    · exact (List.cons_prefix_cons).2 ⟨rfl, ih _⟩
    · exact List.nil_prefix

theorem byteLength_takeBytes_le (n : Nat) (t : Text) : byteLength (takeBytes n t) ≤ n := by
  induction t generalizing n with
  | nil => exact Nat.zero_le _
  | cons c rest ih =>
    simp only [takeBytes]
    split
    · have := ih (n - c.utf8Size)
      simp only [byteLength]
      omega
    · exact Nat.zero_le _

/-! ### Parts of a text -/

/-- What follows `lead` when the text begins with it. -/
def after? (lead : Text) (t : Text) : Option Text :=
  match lead, t with
  | [], t => some t
  | _ :: _, [] => none
  | a :: lead, c :: rest => if a = c then after? lead rest else none

theorem after?_eq_some_iff {lead t rest : Text} : after? lead t = some rest ↔ t = lead ++ rest := by
  induction lead generalizing t with
  | nil => simp [after?]
  | cons a lead ih =>
    cases t with
    | nil => simp [after?]
    | cons c t =>
      by_cases h : a = c
      · simp [after?, h, ih]
      · simp [after?, h, Ne.symm h]

theorem after?_length {lead t rest : Text} (h : after? lead t = some rest) :
    t.length = lead.length + rest.length := by
  rw [after?_eq_some_iff.1 h, List.length_append]

def startsWith (lead t : Text) : Bool := (after? lead t).isSome

def endsWith (tail t : Text) : Bool := startsWith tail.reverse t.reverse

/-- The text before the first occurrence of `mark` and the text after that occurrence. -/
def cut? (mark : Text) : Text → Option (Text × Text)
  | [] => (after? mark []).map fun rest => ([], rest)
  | c :: rest =>
    match after? mark (c :: rest) with
    | some following => some ([], following)
    | none => (cut? mark rest).map fun parts => (c :: parts.1, parts.2)

theorem eq_of_cut? {mark t a b : Text} (h : cut? mark t = some (a, b)) : t = a ++ mark ++ b := by
  induction t generalizing a with
  | nil =>
    obtain ⟨rest, hr, he⟩ := Option.map_eq_some_iff.1 h
    obtain ⟨rfl, rfl⟩ := Prod.mk.inj he
    exact after?_eq_some_iff.1 hr
  | cons c rest ih =>
    simp only [cut?] at h
    split at h
    · next following hf =>
      simp only [Option.some.injEq, Prod.mk.injEq] at h
      obtain ⟨rfl, rfl⟩ := h
      exact after?_eq_some_iff.1 hf
    · obtain ⟨parts, hp, he⟩ := Option.map_eq_some_iff.1 h
      obtain ⟨rfl, rfl⟩ := Prod.mk.inj he
      rw [ih hp]
      rfl

theorem cut?_length {mark t a b : Text} (h : cut? mark t = some (a, b)) :
    t.length = a.length + mark.length + b.length := by
  rw [eq_of_cut? h, List.length_append, List.length_append]

/-- Whether `mark` occurs in the text. -/
def mentions (mark t : Text) : Bool := (cut? mark t).isSome

/-- A text without its longest tail of characters that satisfy `p`. -/
def dropEndWhile (p : Char → Bool) (t : Text) : Text := (t.reverse.dropWhile p).reverse

theorem length_dropWhile_le (p : Char → Bool) (t : Text) :
    (t.dropWhile p).length ≤ t.length := (List.dropWhile_sublist p).length_le

/-- The lines of a text, each with the newline that ends it; only the last may lack one. -/
def lines : Text → List Text
  | [] => []
  | c :: rest =>
    if c = '\n' then ['\n'] :: lines rest
    else match lines rest with
      | [] => [[c]]
      | line :: more => (c :: line) :: more

theorem flatten_lines (t : Text) : (lines t).flatten = t := by
  induction t with
  | nil => rfl
  | cons c rest ih =>
    simp only [lines]
    split
    · next h => simp [h, ih]
    · split
      · next h => simpa [h] using ih.symm
      · next h =>
        rw [h] at ih
        simp [← ih]

def newlines (t : Text) : Nat := t.count '\n'

/-- The texts one after the other with `separator` between neighbours. -/
def join (separator : Text) : List Text → Text
  | [] => []
  | [t] => t
  | t :: more => t ++ separator ++ join separator more

/-- A natural number in decimal. -/
def ofNat (n : Nat) : Text := (toString n).toList

/-! ### Order -/

/-- Texts compare character by character, which is also the order of their UTF-8 forms. -/
def sort (ts : List Text) : List Text := ts.mergeSort fun a b => !decide (b < a)

end Text
end StyleSnapshot
