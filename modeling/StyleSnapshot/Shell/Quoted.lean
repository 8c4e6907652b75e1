import StyleSnapshot.Shell.Octets

/-! Names in messages.

Programs quote what they were given in one of three ways: between single quotes with the
escapes of a string, as a word that a script would read back, or as such a word only where
a script would not read the bare name as itself. -/
namespace StyleSnapshot.Shell.Quoted

/-! ### Strings -/

def isPlain (c : Char) : Bool := 32 ≤ c.toNat && c.toNat < 127

/-- The escape of a byte that does not print. -/
def escaped (c : Char) : Octets :=
  let octal := Octets.inBase 8 c.toNat
  match [('\x07', 'a'), ('\x08', 'b'), ('\t', 't'), ('\n', 'n'), ('\x0b', 'v'), ('\x0c', 'f'),
    ('\r', 'r')].lookup c with
  | some letter => ['\\', letter]
  | none => '\\' :: List.replicate (3 - octal.length) '0' ++ octal

/-- A text between single quotes. -/
def name (t : Octets) : Octets :=
  let shown (c : Char) : Octets :=
    if c = '\'' || c = '\\' then ['\\', c] else if isPlain c then [c] else escaped c
  '\'' :: t.flatMap shown ++ ['\'']

/-! ### Words of a script -/

/-- Whether a byte stands for itself in a word, inside double quotes too. -/
def isHarmless (c : Char) : Bool := c.isAlphanum || c ∈ "%+,-./:]_@".toList

/-- Whether a word needs quotes because of a byte. Some matter only at the front, and braces
only if nothing else is there. -/
def needsQuotes (t : Octets) : Bool :=
  t = [] || t = ['\x7b'] || t = ['\x7d'] || t.head? = some '#' || t.head? = some '~' ||
    t.any fun c =>
      !isPlain c || c = ':' || !(isHarmless c || c ∈ "\x7b\x7d#~".toList)

/-- The inside of a word in single quotes. Escapes stand between quotes of their own, which
the flag says are open. -/
def inside : (isEscaping : Bool) → Octets → Octets
  | _, [] => []
  | isEscaping, c :: rest =>
    if c = '\'' then "'\\''".toList ++ inside false rest
    else if isPlain c then (if isEscaping then "''".toList else []) ++ c :: inside false rest
    else (if isEscaping then [] else "'$'".toList) ++ escaped c ++ inside true rest

/-- A text as a word in quotes: in double ones if single quotes are all that is special. -/
def word (t : Octets) : Octets :=
  let isSimple (i : Nat) (c : Char) : Bool :=
    isHarmless c || c = '\'' || c = ' ' || (i = 0 && (c = '#' || c = '~'))
  if '\'' ∈ t && t.zipIdx.all fun (c, i) => isSimple i c then '"' :: t ++ ['"']
  else '\'' :: inside false t ++ ['\'']

/-- A text as a word, in quotes if it needs them. -/
def file (t : Octets) : Octets := if needsQuotes t then word t else t

end StyleSnapshot.Shell.Quoted
