import StyleSnapshot.Shell.Tool.Sed.Reader
import StyleSnapshot.Shell.Tool.Sed.Run

/-! The stream editor as a program. -/
namespace StyleSnapshot.Shell.Tool.Sed

def options : Options where
  letters := "nErsuzib"
  withArgument := "efl"
  withoutArgument := "i"
  long := [⟨"quiet", 'n', false⟩, ⟨"silent", 'n', false⟩, ⟨"expression", 'e', true⟩,
    ⟨"file", 'f', true⟩, ⟨"regexp-extended", 'E', false⟩, ⟨"in-place", 'i', true⟩,
    ⟨"separate", 's', false⟩, ⟨"unbuffered", 'u', false⟩, ⟨"null-data", 'z', false⟩,
    ⟨"zero-terminated", 'z', false⟩, ⟨"line-length", 'l', true⟩, ⟨"posix", 'p', false⟩,
    ⟨"follow-symlinks", 'u', false⟩, ⟨"binary", 'b', false⟩]

/-- The parts that options give a script in. -/
def partsOf : (expressions : Nat) → List (Char × Octets) → Tool (List (Origin × Octets))
  | _, [] => return []
  | n, (c, a) :: more => do
    if c = 'e' then return (.argument (n + 1), a) :: (← partsOf (n + 1) more)
    else if c = 'f' then
      match ← content a with
      | .ok t => return (.file a, t) :: (← partsOf n more)
      | .error reason => fail 4 ("couldn't open file ".toList ++ a ++ ": ".toList ++ reason)
    else partsOf n more

/-- Whether a part that a script begins with asks for quiet: an expression by its first
characters, a file by its first line. -/
def asksForQuiet : Origin × Octets → Bool
  | (.argument _, t) => Text.startsWith "#n".toList t
  | (.file _, t) => t.takeWhile (· ≠ '\n') = "#n".toList

/-- Opens the files that a script writes. -/
def openDestinations (cs : Array Command) : Tool Unit := do
  for d in destinations cs do
    match d with
    | .file path =>
      match ← store path [] with
      | .ok () => pure ()
      | .error reason => fail 4 ("couldn't open file ".toList ++ path ++ ": ".toList ++ reason)
    | .output | .standard _ => pure ()

def main (ws : List Octets) : Tool Nat := do
  let p ← parsed options ws
  let isScripted := p.has 'e' || p.has 'f'
  let (parts, paths) ← match isScripted, p.operands with
    | true, paths => pure (← partsOf 0 p.options, paths)
    | false, script :: paths => pure ([(Origin.argument 1, script)], paths)
    | false, [] => do
      tell "Usage: sed [OPTION]... \x7bscript-only-if-no-other-script\x7d [input-file]...\n\n".toList
      stop 1
  match read (p.has 'E' || p.has 'r') parts with
  | .error f =>
    if f.reason = Regex.barredClass then fail 4 f.reason.toList
    fail 1 f.message
  | .ok cs =>
    match missingLabel? cs with
    | some l => fail 4 ("can't find label for jump to \x60".toList ++ l ++ ['\''])
    | none =>
      openDestinations cs
      if p.has 'i' && paths = [] then fail 4 "no input files".toList
      edit {
        commands := cs
        isQuiet := p.has 'n' || (parts.head?.map asksForQuiet) = some true
        lineEnd := if p.has 'z' then '\x00' else '\n'
        width := ((p.last? 'l').map fun a => (Octets.digits 10 0 a.length a).1).getD 70
        isSeparate := p.has 's' || p.has 'i'
        suffix := p.last? 'i'
        expressions := (parts.filter fun part => match part.1 with
          | .argument _ => true
          | .file _ => false).length } (orStandardInput paths)

end StyleSnapshot.Shell.Tool.Sed
