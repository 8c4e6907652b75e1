import StyleSnapshot.FileTree

/-! A tree of files in one stream of bytes.

Each entry is a line with the path and, for a file, behind a tab the number of its bytes;
the bytes follow the line. A path that ends in a slash is a directory and has no bytes.
Reading stops at the end of the stream, and the stream is refused at the first entry that
is not of this form. -/
namespace StyleSnapshot.FileTree

/-- The head of an entry: its path, and its size unless it is a directory. -/
def entryHead? (line : Text) : Option (Path × Option Nat) :=
  match Text.cut? ['\t'] line with
  | none => if line.getLast? = some '/' then some (line, none) else none
  | some (path, size) => ((String.ofList size).toNat?).map fun n => (path, some n)

/-- Reads the entries of an archive. -/
def readArchive : Nat → List UInt8 → Option (List (Path × FileContent))
  | _, [] => some []
  | 0, _ => none
  | fuel + 1, bytes => do
    let line ← Text.decode? (bytes.takeWhile (· ≠ 0x0A))
    let behind := (bytes.dropWhile (· ≠ 0x0A)).tail
    match ← entryHead? line with
    | (path, none) =>
      let more ← readArchive fuel behind
      some ((path, .directory) :: more)
    | (path, some size) =>
      if behind.length < size then none
      else
        let more ← readArchive fuel (behind.drop size)
        some ((path, .file (behind.take size)) :: more)

/-- The tree of an archive. Each entry takes at least a byte, so their number is at most
that of the bytes. -/
def ofArchive? (bytes : List UInt8) : Option FileTree :=
  (readArchive bytes.length bytes).map ofFiles

end StyleSnapshot.FileTree
