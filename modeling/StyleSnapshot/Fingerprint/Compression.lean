/-! The compression function of the tree hash BLAKE3.

A block of sixteen words is mixed into a chaining value of eight words in seven rounds.
Each round mixes the four columns and then the four diagonals of a square of sixteen
words, and the message words change places between rounds. -/
namespace StyleSnapshot.TreeHash

abbrev Chaining := Vector UInt32 8

abbrev Square := Vector UInt32 16

/-- The chaining value every chunk starts from. -/
def initial : Chaining :=
  #v[0x6A09E667, 0xBB67AE85, 0x3C6EF372, 0xA54FF53A, 0x510E527F, 0x9B05688C, 0x1F83D9AB,
    0x5BE0CD19]

/-- Where each word of the next round's message comes from. -/
def permutation : Vector (Fin 16) 16 :=
  #v[2, 6, 3, 10, 7, 0, 4, 13, 1, 11, 12, 5, 9, 14, 15, 8]

def permute (m : Square) : Square := permutation.map m.get

/-- Rotation to the right, for a distance strictly between 0 and 32. -/
def rotate (x : UInt32) (n : UInt32) : UInt32 := (x >>> n) ||| (x <<< (32 - n))

/-- Mixes two message words into four words of the square. -/
def mix (v : Square) (a b c d : Fin 16) (x y : UInt32) : Square :=
  let a1 := v.get a + v.get b + x
  let d1 := rotate (v.get d ^^^ a1) 16
  let c1 := v.get c + d1
  let b1 := rotate (v.get b ^^^ c1) 12
  let a2 := a1 + b1 + y
  let d2 := rotate (d1 ^^^ a2) 8
  let c2 := c1 + d2
  let b2 := rotate (b1 ^^^ c2) 7
  (((v.set a a2 a.isLt).set b b2 b.isLt).set c c2 c.isLt).set d d2 d.isLt

def round (v m : Square) : Square :=
  let v := mix v 0 4 8 12 (m.get 0) (m.get 1)
  let v := mix v 1 5 9 13 (m.get 2) (m.get 3)
  let v := mix v 2 6 10 14 (m.get 4) (m.get 5)
  let v := mix v 3 7 11 15 (m.get 6) (m.get 7)
  let v := mix v 0 5 10 15 (m.get 8) (m.get 9)
  let v := mix v 1 6 11 12 (m.get 10) (m.get 11)
  let v := mix v 2 7 8 13 (m.get 12) (m.get 13)
  mix v 3 4 9 14 (m.get 14) (m.get 15)

def rounds : Nat → Square → Square → Square
  | 0, v, _ => v
  | n + 1, v, m => rounds n (round v m) (permute m)

/-- A block with everything that goes into its compression. -/
structure Node where
  chaining : Chaining
  block : Square
  counter : UInt64
  length : UInt32
  flags : UInt32

def compress (n : Node) : Chaining :=
  let h := n.chaining
  let v : Square := #v[h.get 0, h.get 1, h.get 2, h.get 3, h.get 4, h.get 5, h.get 6, h.get 7,
    0x6A09E667, 0xBB67AE85, 0x3C6EF372, 0xA54FF53A,
    n.counter.toUInt32, (n.counter >>> 32).toUInt32, n.length, n.flags]
  let v := rounds 7 v n.block
  Vector.ofFn fun i : Fin 8 =>
    v.get ⟨i.val, by omega⟩ ^^^ v.get ⟨i.val + 8, by omega⟩

end StyleSnapshot.TreeHash
