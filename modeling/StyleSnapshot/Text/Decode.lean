import StyleSnapshot.Text.Basic

/-! Reading bytes as UTF-8.

Bytes are read one character at a time. Where no character can be read, the longest run
of bytes that could have begun one is a fault, or a single byte when there is no such
run. Strict decoding refuses any fault; lenient decoding puts U+FFFD in its place. -/
namespace StyleSnapshot.Text

/-- What the first byte of a character announces. -/
structure Lead where
  /-- How many bytes follow. -/
  further : Nat
  /-- The range of the byte that follows first. -/
  low : UInt8
  high : UInt8
  /-- The bits that the first byte contributes. -/
  bits : Nat

def lead? (b : UInt8) : Option Lead :=
  let n := b.toNat
  if n < 0x80 then some ⟨0, 0x80, 0xBF, n⟩
  else if n < 0xC2 then none
  else if n < 0xE0 then some ⟨1, 0x80, 0xBF, n - 0xC0⟩
  else if n = 0xE0 then some ⟨2, 0xA0, 0xBF, 0⟩
  else if n = 0xED then some ⟨2, 0x80, 0x9F, 13⟩
  else if n < 0xF0 then some ⟨2, 0x80, 0xBF, n - 0xE0⟩
  else if n = 0xF0 then some ⟨3, 0x90, 0xBF, 0⟩
  else if n < 0xF4 then some ⟨3, 0x80, 0xBF, n - 0xF0⟩
  else if n = 0xF4 then some ⟨3, 0x80, 0x8F, 4⟩
  else none

/-- Reads the bytes that follow a first one. A byte out of range is not consumed. -/
def readFurther (low high : UInt8) (bits : Nat) : Nat → List UInt8 → Option Nat × List UInt8
  | 0, bytes => (some bits, bytes)
  | _ + 1, [] => (none, [])
  | n + 1, b :: rest =>
    if low ≤ b && b ≤ high then readFurther 0x80 0xBF (bits * 64 + (b.toNat - 0x80)) n rest
    else (none, b :: rest)

/-- One character, or one fault, and the bytes behind it. -/
def readChar (b : UInt8) (rest : List UInt8) : Option Char × List UInt8 :=
  match lead? b with
  | none => (none, rest)
  | some lead =>
    let (code, behind) := readFurther lead.low lead.high lead.bits lead.further rest
    (code.map Char.ofNat, behind)

theorem readFurther_length (low high : UInt8) (bits n : Nat) (bytes : List UInt8) :
    (readFurther low high bits n bytes).2.length ≤ bytes.length := by
  induction n generalizing low high bits bytes with
  | zero => exact Nat.le_refl _
  | succ n ih =>
    cases bytes with
    | nil => exact Nat.le_refl _
    | cons b rest =>
      simp only [readFurther]
      split
      · have := ih 0x80 0xBF (bits * 64 + (b.toNat - 0x80)) rest
        simp only [List.length_cons]
        omega
      · exact Nat.le_refl _

theorem readChar_length (b : UInt8) (rest : List UInt8) :
    (readChar b rest).2.length ≤ rest.length := by
  simp only [readChar]
  split
  · exact Nat.le_refl _
  · exact readFurther_length ..

/-- The characters and faults of some bytes. -/
def readChars : List UInt8 → List (Option Char)
  | [] => []
  | b :: rest => (readChar b rest).1 :: readChars (readChar b rest).2
termination_by bytes => bytes.length
decreasing_by
  have := readChar_length b rest
  simp only [List.length_cons]
  omega

/-- The text of some bytes, if they are without fault. -/
def decode? (bytes : List UInt8) : Option Text := (readChars bytes).mapM id

/-- The text of some bytes, with U+FFFD for every fault. -/
def decodeLenient (bytes : List UInt8) : Text :=
  (readChars bytes).map fun c => c.getD '\uFFFD'

end StyleSnapshot.Text
