import StyleSnapshot.Delimiter
import StyleSnapshot.Fixture.Line

/-! The test blocks of a fixture.

A block is a run of whole lines. It begins with a line that declares a test. It is that
line alone when the line leaves no brace open and ends in `})`; otherwise it ends with
the first later line that begins with `})` and behind which the braces opened since the
declaration are closed. Lines outside a block are ignored, and a block still open at the
end of the fixture is dropped. -/
namespace StyleSnapshot.Fixture

structure TestBlock where
  name : Text
  /-- The number of the declaring line, counted from one. -/
  startLine : Nat
  text : Text
  deriving DecidableEq, Repr

/-- A block whose closing line has not been seen. -/
structure OpenBlock where
  name : Text
  startLine : Nat
  /-- The lines read so far, the last first. -/
  lines : List Text
  /-- How many braces they leave open. -/
  depth : Int
  deriving DecidableEq, Repr

/-- The block that an open block becomes when it is closed. -/
def OpenBlock.close (b : OpenBlock) : TestBlock := ⟨b.name, b.startLine, b.lines.reverse.flatten⟩

/-- A line without the characters that end it. -/
def bareLine (line : Text) : Text := Text.dropEndWhile (fun c => c = '\r' || c = '\n') line

def blockClose : Text := ['\x7d', ')']

/-- Whether a line can be the last of a block of several lines. -/
def closesBlock (line : Text) : Bool := Text.startsWith blockClose (Text.trim line)

/-- Whether a declaring line can be a whole block. -/
def closesItself (line : Text) : Bool :=
  Text.endsWith blockClose (Text.dropEndWhile (· = ';') (Text.trim line))

/-- Reads the line with the given number: the block that is open behind it, and the block
it completes. -/
def readLine (number : Nat) (state : Option OpenBlock) (rawLine : Text) :
    Option OpenBlock × Option TestBlock :=
  let line := bareLine rawLine
  match state with
  | none =>
    match declaredName? line with
    | none => (none, none)
    | some name =>
      if braceBalance line ≤ 0 ∧ closesItself line then (none, some ⟨name, number, rawLine⟩)
      else (some ⟨name, number, [rawLine], braceBalance line⟩, none)
  | some b =>
    let b : OpenBlock := ⟨b.name, b.startLine, rawLine :: b.lines, b.depth + braceBalance line⟩
    if b.depth ≤ 0 ∧ closesBlock line then (none, some b.close) else (some b, none)

/-- The blocks completed by the given lines, the first of which has the given number. -/
def blocksFrom (number : Nat) (state : Option OpenBlock) : List Text → List TestBlock
  | [] => []
  | line :: more =>
    let (next, completed) := readLine number state line
    completed.toList ++ blocksFrom (number + 1) next more

/-- The test blocks of a fixture in the order of the text. -/
def blocks (source : Text) : List TestBlock := blocksFrom 1 none (Text.lines source)

end StyleSnapshot.Fixture
