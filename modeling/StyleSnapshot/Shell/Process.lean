import StyleSnapshot.FileTree
import StyleSnapshot.Shell.Octets
import StyleSnapshot.Shell.Signal

/-! Programs that run, and what they leave behind.

A program sees the tree of files from a directory, and reads and writes through numbered
descriptors, each of which leads to a stream. Programs that run one after the other share
the tree and the streams. A pipe is a stream that one program fills before the next one
reads it, so a program that never stops writing is ended when the pipe is full. -/
namespace StyleSnapshot

/-! ### Ends of programs -/

inductive ExitStatus where
  | exited (code : Nat)
  /-- Ended by a signal. -/
  | signalled (number : Nat)
  deriving DecidableEq, Repr

namespace ExitStatus

def isSuccess (s : ExitStatus) : Bool := s = .exited 0

/-- The status as a script sees it. -/
def code : ExitStatus → Nat
  | .exited code => code
  | .signalled number => 128 + number

def toText : ExitStatus → Text
  | .exited code => "exit status: ".toList ++ Text.ofNat code
  | .signalled number =>
    "signal: ".toList ++ Text.ofNat number ++
      match Signal.names.lookup number with
      | some name => " (SIG".toList ++ name ++ [')']
      | none => []

end ExitStatus

/-- The end of a program and what it wrote. -/
structure Completion where
  status : ExitStatus
  output : List UInt8
  errors : List UInt8
  deriving DecidableEq, Repr

/-! ### Streams -/

inductive Stream where
  /-- Something to read: what is left of it. -/
  | source (left : Octets)
  /-- Something to write: the pieces written so far, the last first, and their length.
  Behind the bound, if there is one, nothing more is taken. -/
  | sink (pieces : List Octets) (length : Nat) (bound : Option Nat)
  /-- A file at an offset; appended text goes to its end. -/
  | file (place : Location) (offset : Nat) (isAppended : Bool)
  /-- Nothing to read, and everything written is lost. -/
  | nothing

/-- How much a pipe takes before a program that fills it without end is stopped. -/
def Stream.pipeBound : Nat := 1000000

/-- Why a program cannot go on writing. -/
inductive WriteError where
  /-- The descriptor leads nowhere. -/
  | badDescriptor
  /-- The pipe is full. -/
  | brokenPipe
  deriving DecidableEq, Repr

/-- What programs share. -/
structure World where
  tree : FileTree
  streams : Array Stream

namespace World

/-- The world with one more stream, and its number. -/
def opened (w : World) (s : Stream) : World × Nat :=
  ({ w with streams := w.streams.push s }, w.streams.size)

/-- The bytes of the file at a place. -/
def contentAt (w : World) (place : Location) : Octets :=
  match w.tree.content? place with
  | some (.file bytes) => Octets.ofBytes bytes
  | some _ | none => []

/-- What is left to read of a stream. -/
def pending (w : World) (stream : Nat) : Except AccessError Octets :=
  match w.streams[stream]? with
  | some (.source left) => .ok left
  | some (.file place offset _) =>
    if w.tree.content? place = some .directory then .error .isDirectory
    else .ok ((w.contentAt place).drop offset)
  | some (.sink ..) | some .nothing | none => .ok []

/-- The world after some bytes of a stream have been read. -/
def consume (w : World) (stream : Nat) (count : Nat) : World :=
  let consumed : Stream → Stream
    | .source left => .source (left.drop count)
    | .file place offset isAppended => .file place (offset + count) isAppended
    | s => s
  { w with streams := w.streams.modify stream consumed }

/-- The world after some bytes have been given back, which only a file takes. -/
def giveBack (w : World) (stream : Nat) (count : Nat) : World :=
  let returned : Stream → Stream
    | .file place offset isAppended => .file place (offset - count) isAppended
    | s => s
  { w with streams := w.streams.modify stream returned }

/-- Writes to a stream. -/
def write (w : World) (stream : Nat) (t : Octets) : Except WriteError World :=
  match w.streams[stream]? with
  | some (.sink pieces length bound) =>
    if bound.any (· < length) then .error .brokenPipe
    else
      .ok { w with
        streams := w.streams.set! stream (.sink (t :: pieces) (length + t.length) bound) }
  | some (.file place offset isAppended) =>
    let content := w.contentAt place
    let start := if isAppended then content.length else offset
    let before := content.take start ++ List.replicate (start - content.length) '\x00'
    let text := before ++ t ++ content.drop (start + t.length)
    .ok {
      tree := w.tree.put place (.file (Octets.toBytes text))
      streams := w.streams.set! stream (.file place (start + t.length) isAppended) }
  | some .nothing => .ok w
  | some (.source _) | none => .error .badDescriptor

/-- What has been written to a stream. -/
def written (w : World) (stream : Nat) : Octets :=
  match w.streams[stream]? with
  | some (.sink pieces _ _) => pieces.reverse.flatten
  | some _ | none => []

end World

/-! ### Processes -/

/-- A program that runs: the world, where its descriptors lead, the directory it works in
and the values it was handed by name. -/
structure Process extends World where
  descriptors : List (Nat × Nat)
  directory : Location
  environment : List (Octets × Octets)
  /-- The signals that it ignores. -/
  ignored : List Nat := []
  /-- The permissions that a new file does not get. -/
  mask : Nat := 18

namespace Process

/-- A process in a tree with some input and nothing written yet. -/
def start (tree : FileTree) (input : Octets) : Process where
  tree := tree
  streams := #[.source input, .sink [] 0 none, .sink [] 0 none]
  descriptors := [(0, 0), (1, 1), (2, 2)]
  directory := FileTree.workplace
  environment :=
    [("HOME".toList, "/root".toList), ("PATH".toList, "/usr/bin:/bin".toList),
      ("PWD".toList, "/work".toList)]

/-- The process in a world that has changed. -/
def within (p : Process) (w : World) : Process := { p with toWorld := w }

/-- The process in which a descriptor leads to a stream. -/
def withStream (p : Process) (descriptor stream : Nat) : Process :=
  { p with
    descriptors := (descriptor, stream) :: p.descriptors.filter fun d => d.1 ≠ descriptor }

/-- What is left to read behind a descriptor. -/
def pending (p : Process) (descriptor : Nat) : Option (Except AccessError Octets) :=
  (p.descriptors.lookup descriptor).map p.toWorld.pending

/-- Takes all that is left to read behind a descriptor. -/
def readAll (p : Process) (descriptor : Nat) : Octets × Process :=
  match p.descriptors.lookup descriptor with
  | none => ([], p)
  | some stream =>
    match p.toWorld.pending stream with
    | .error _ => ([], p)
    | .ok t => (t, p.within (p.toWorld.consume stream t.length))

/-- Gives back some of what was read behind a descriptor. -/
def giveBack (p : Process) (descriptor count : Nat) : Process :=
  match p.descriptors.lookup descriptor with
  | none => p
  | some stream => p.within (p.toWorld.giveBack stream count)

/-- Writes to a descriptor. -/
def write (p : Process) (descriptor : Nat) (t : Octets) : Except WriteError Process :=
  if t = [] then .ok p
  else
    match p.descriptors.lookup descriptor with
    | none => .error .badDescriptor
    | some stream => (p.toWorld.write stream t).map p.within

/-- The descriptor that a path among the devices stands for. -/
def descriptorAt? (path : Octets) : Option Nat :=
  match String.ofList path with
  | "/dev/stdin" => some 0
  | "/dev/stdout" => some 1
  | "/dev/stderr" => some 2
  | _ =>
    match (Text.after? "/dev/fd/".toList path).or (Text.after? "/proc/self/fd/".toList path) with
    | some digits => Octets.natural? digits
    | none => none

/-- Writes to a descriptor if that is possible. -/
def tell (p : Process) (descriptor : Nat) (t : Octets) : Process :=
  (p.write descriptor t).toOption.getD p

end Process
end StyleSnapshot
