import StyleSnapshot.Fingerprint.Compression
import StyleSnapshot.Text.Quoted

/-! The fingerprint of a text.

The bytes are cut into chunks of 1024, each compressed block by block. The chunks are the
leaves of a tree whose levels pair neighbours, an odd last node moving up as it is; the
hash is the compression of the root. A fingerprint is its first eight bytes. -/
namespace StyleSnapshot.TreeHash

/-! ### Flags -/

def chunkStart : UInt32 := 1
def chunkEnd : UInt32 := 2
def parentFlag : UInt32 := 4
def rootFlag : UInt32 := 8

/-! ### Chunks -/

/-- A word from four bytes, the first the least significant; absent bytes are zero. -/
def word (bytes : List UInt8) : UInt32 :=
  (bytes.getD 0 0).toUInt32 ||| (bytes.getD 1 0).toUInt32 <<< 8 |||
    (bytes.getD 2 0).toUInt32 <<< 16 ||| (bytes.getD 3 0).toUInt32 <<< 24

/-- The words of a block, which is padded with zeros. -/
def block (bytes : List UInt8) : Square := Vector.ofFn fun i => word (bytes.drop (4 * i.val))

/-- The last block of a chunk, not yet compressed, after all blocks before it. `start` is
the flag of the first block and zero for all others. -/
def chunkNode (counter : UInt64) (chaining : Chaining) (start : UInt32) (bytes : List UInt8) :
    Node :=
  match _h : bytes.drop 64 with
  | [] => ⟨chaining, block bytes, counter, bytes.length.toUInt32, start ||| chunkEnd⟩
  | c :: rest =>
    chunkNode counter (compress ⟨chaining, block (bytes.take 64), counter, 64, start⟩) 0 (c :: rest)
termination_by bytes.length
decreasing_by
  have := congrArg List.length _h
  simp only [List.length_drop, List.length_cons] at this
  simp only [List.length_cons]
  omega

/-- The chunks of a text, the first of which has the given number. -/
def chunkNodes (counter : Nat) (bytes : List UInt8) : List Node :=
  let first := chunkNode counter.toUInt64 initial chunkStart (bytes.take 1024)
  match _h : bytes.drop 1024 with
  | [] => [first]
  | c :: rest => first :: chunkNodes (counter + 1) (c :: rest)
termination_by bytes.length
decreasing_by
  have := congrArg List.length _h
  simp only [List.length_drop, List.length_cons] at this
  simp only [List.length_cons]
  omega

/-! ### The tree -/

def parent (left right : Node) : Node :=
  ⟨initial, (compress left ++ compress right : Vector UInt32 16), 0, 64, parentFlag⟩

/-- The next level of the tree. -/
def pairUp : List Node → List Node
  | left :: right :: rest => parent left right :: pairUp rest
  | nodes => nodes

theorem pairUp_length_le (nodes : List Node) : (pairUp nodes).length ≤ nodes.length := by
  fun_induction pairUp nodes with
  | case1 left right rest ih =>
    simp only [List.length_cons]
    omega
  | case2 => exact Nat.le_refl _

/-- The root over some nodes of one level, the first of which is given apart. -/
def root (first : Node) (more : List Node) : Node :=
  match more with
  | [] => first
  | second :: rest => root (parent first second) (pairUp rest)
termination_by more.length
decreasing_by
  have := pairUp_length_le rest
  simp only [List.length_cons]
  omega

/-- The hash of some bytes, as eight words. -/
def hash (bytes : List UInt8) : Chaining :=
  match chunkNodes 0 bytes with
  | [] => initial
  | first :: more =>
    let top := root first more
    compress { top with flags := top.flags ||| rootFlag }

/-! ### Hexadecimal -/

def hexByte (n : Nat) : Text :=
  let digits := Text.hex n
  List.replicate (2 - digits.length) '0' ++ digits

/-- The bytes of a word in hexadecimal, the least significant first. -/
def hexWord (w : UInt32) : Text :=
  [w, w >>> 8, w >>> 16, w >>> 24].flatMap fun x => hexByte (x.toNat % 256)

end StyleSnapshot.TreeHash

namespace StyleSnapshot

/-- The first sixteen hexadecimal digits of the hash of a text. -/
def fingerprint (t : Text) : Text :=
  ((TreeHash.hash (Text.utf8 t)).toList.take 2).flatMap TreeHash.hexWord

end StyleSnapshot
