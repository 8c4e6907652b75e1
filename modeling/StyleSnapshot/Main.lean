import StyleSnapshot.Archive
import StyleSnapshot.CommandLine.Run

/-! The program. Its arguments are a command line; the files it works on are handed over
as an archive on standard input. -/

/-- All bytes of a stream. -/
partial def StyleSnapshot.readAll (stream : IO.FS.Stream) (soFar : ByteArray) : IO ByteArray := do
  let chunk ← stream.read 65536
  if chunk.isEmpty then return soFar else StyleSnapshot.readAll stream (soFar ++ chunk)

open StyleSnapshot in
/-- Runs the command line and exits with its code. -/
def main (arguments : List String) : IO UInt32 := do
  let bytes ← readAll (← IO.getStdin) .empty
  match FileTree.ofArchive? bytes.toList with
  | none =>
    IO.eprintln "standard input is no archive"
    return 2
  | some tree =>
    let outcome := CommandLine.run tree (arguments.map String.toList)
    IO.print (String.ofList outcome.output)
    return UInt32.ofNat outcome.exit
