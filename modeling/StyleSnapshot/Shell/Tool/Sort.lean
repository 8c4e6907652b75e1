import StyleSnapshot.Shell.Tool.Print
import StyleSnapshot.Shell.Tool.Version

/-! Programs about the order of lines and equal neighbours. -/
namespace StyleSnapshot.Shell.Tool

/-! ### Keys -/

/-- What is compared of keys. -/
inductive Measure where
  | text
  | numeral
  /-- A numeral with a letter for its size. -/
  | sized
  | real
  | version
  deriving DecidableEq, Repr

/-- How keys are compared. -/
structure SortStyle where
  measure : Measure := .text
  isReverse : Bool := false
  ignoresCase : Bool := false
  skipsBlanks : Bool := false
  dictionary : Bool := false

def SortStyle.withLetter (s : SortStyle) (c : Char) : SortStyle :=
  if c = 'n' then { s with measure := .numeral }
  else if c = 'h' then { s with measure := .sized }
  else if c = 'g' then { s with measure := .real }
  else if c = 'V' then { s with measure := .version }
  else if c = 'r' then { s with isReverse := true }
  else if c = 'f' then { s with ignoresCase := true }
  else if c = 'b' then { s with skipsBlanks := true }
  else if c = 'd' || c = 'i' then { s with dictionary := true }
  else s

/-- A place in a line: a field and a character, both counted from one. A last character of
zero is the end of the field. -/
structure SortKey where
  field : Nat
  character : Nat
  lastField : Option Nat
  lastCharacter : Nat
  style : SortStyle

/-- A field and a character of it, and the letters behind. -/
def keyPart (usual : Nat) (t : Octets) : Option (Nat × Nat × Octets) :=
  let field := t.takeWhile Char.isDigit
  let behind := t.drop field.length
  let (character, letters) := match behind with
    | '.' :: more => (more.takeWhile Char.isDigit, more.dropWhile Char.isDigit)
    | more => ([], more)
  match Octets.natural? field with
  | none => none
  | some n => some (n, (Octets.natural? character).getD usual, letters)

def SortKey.read? (usual : SortStyle) (t : Octets) : Option SortKey :=
  let (first, last) := match Text.cut? [','] t with
    | some (a, b) => (a, some b)
    | none => (t, none)
  match keyPart 1 first, last.map (keyPart 0) with
  | some (field, character, letters), none =>
    if field = 0 then none
    else
      some ⟨field, character, none, 0,
        if letters = [] then usual else letters.foldl SortStyle.withLetter {}⟩
  | some (field, character, letters), some (some (lastField, lastCharacter, more)) =>
    if field = 0 then none
    else
      let letters := letters ++ more
      some ⟨field, character, some lastField, lastCharacter,
        if letters = [] then usual else letters.foldl SortStyle.withLetter {}⟩
  | _, _ => none

/-- The line in fields. Without a separator each field has the blanks in front of it. -/
def fieldsOf (separator : Option Char) (line : Octets) : List Octets :=
  match separator with
  | some c => line.splitOn c
  | none => blankFields (line.length + 1) line
where
  blankFields : Nat → Octets → List Octets
    | 0, _ => []
    | fuel + 1, t =>
      let blanks := t.takeWhile fun c => c = ' ' || c = '\t'
      let rest := t.drop blanks.length
      let word := rest.takeWhile fun c => c ≠ ' ' && c ≠ '\t'
      let behind := rest.drop word.length
      if behind = [] then [blanks ++ word] else (blanks ++ word) :: blankFields fuel behind

def joinFields (separator : Option Char) (fields : List Octets) : Octets :=
  match separator with
  | some c => Text.join [c] fields
  | none => fields.flatten

/-- The part of a line that a key selects. -/
def SortKey.of (separator : Option Char) (k : SortKey) (line : Octets) : Octets :=
  let fields := fieldsOf separator line
  let isBlank (c : Char) : Bool := c = ' ' || c = '\t'
  let trimmed (t : Octets) : Octets := if k.style.skipsBlanks then t.dropWhile isBlank else t
  let ends (n : Nat) (t : Octets) : Octets :=
    if k.lastCharacter = 0 then t
    else
      let blanks := if k.style.skipsBlanks then (t.takeWhile isBlank).length else 0
      if n = 0 then t else t.take (blanks + k.lastCharacter)
  let cutOff := match k.lastField with
    | none => fields
    | some n =>
      (fields.take n).zipIdx.map fun (t, i) => if i + 1 = n then ends n t else t
  match cutOff.drop (k.field - 1) with
  | [] => []
  | first :: more => joinFields separator ((trimmed first).drop (k.character - 1) :: more)

/-- The number at the front of a text, in units of a place. -/
def leadingNumeral (t : Octets) : Numeral :=
  let t := t.dropWhile fun c => c = ' ' || c = '\t'
  let (sign, t) := match t with
    | '-' :: rest => (['-'], rest)
    | rest => ([], rest)
  let whole := t.takeWhile Char.isDigit
  let part := match t.drop whole.length with
    | '.' :: more => '.' :: more.takeWhile Char.isDigit
    | _ => []
  (Numeral.read? (sign ++ whole ++ part)).getD ⟨0, 0⟩

def numeralOrder (a b : Octets) : Ordering :=
  let (x, y) := (leadingNumeral a, leadingNumeral b)
  let places := max x.places y.places
  compare (x.unitsAt places) (y.unitsAt places)

/-- The rank of the letter behind a numeral, negative for a negative one. -/
def sizeRank (t : Octets) : Int :=
  let t := t.dropWhile fun c => c = ' ' || c = '\t'
  let digits := if t.head? = some '-' then t.tail else t
  let isZero := (leadingNumeral t).units = 0
  let behind := digits.dropWhile fun c => c.isDigit || c = '.'
  let letter := behind.head?.map fun c => if c = 'k' then 'K' else c
  let rank := if isZero then 0 else (letter.bind ("KMGTPEZYRQ".toList.idxOf? ·)).elim 0 (· + 1)
  if t.head? = some '-' then -(rank : Int) else rank

/-- The real number at the front of a text; none goes before all numbers. -/
def realAt (t : Octets) : Option (Bool × Format.Real) :=
  let t := t.dropWhile Octets.isSpace
  let (isNegative, digits) := match t with
    | '-' :: rest => (true, rest)
    | '+' :: rest => (false, rest)
    | rest => (false, rest)
  (Format.Real.leading? .extended digits).map fun r => (isNegative, r.1)

def realOrder (a b : Octets) : Ordering :=
  /- Kinds in their order: no number, an undefined one, the negative infinity, finite ones,
  and infinity. -/
  let kind : Option (Bool × Format.Real) → Nat
    | none => 0
    | some (_, .undefined) => 1
    | some (true, .infinite) => 2
    | some (_, .finite ..) => 3
    | some (false, .infinite) => 4
  match realAt a, realAt b with
  | some (s, .finite n d), some (s', .finite n' d') =>
    let signed (isNegative : Bool) (n : Nat) : Int := if isNegative then -(n : Int) else n
    compare (signed s n * d') (signed s' n' * d)
  | x, y => compare (kind x) (kind y)

/-- Whether a key goes before another one, or after it. -/
def SortStyle.order (s : SortStyle) (a b : Octets) : Ordering :=
  let order := match s.measure with
    | .numeral => numeralOrder a b
    | .sized => (compare (sizeRank a) (sizeRank b)).then (numeralOrder a b)
    | .real => realOrder a b
    | .version => Version.order a b
    | .text =>
      let prepared (t : Octets) : Octets :=
        let t := if s.dictionary then
            t.filter fun c => c.isAlphanum || c = ' ' || c = '\t'
          else t
        if s.ignoresCase then t.map Octets.toUpper else t
      let (x, y) := (prepared a, prepared b)
      if x < y then .lt else if y < x then .gt else .eq
  if s.isReverse then order.swap else order

/-- The order of lines by keys alone. -/
def keyOrder (separator : Option Char) (keys : List SortKey) (a b : Octets) : Ordering :=
  match keys with
  | [] => .eq
  | k :: more =>
    match k.style.order (k.of separator a) (k.of separator b) with
    | .eq => keyOrder separator more a b
    | order => order

/-- Leaves one of several neighbours that a relation holds to be equal. -/
def distinct (isEqual : Octets → Octets → Bool) : List Octets → List Octets
  | [] => []
  | [a] => [a]
  | a :: b :: more =>
    if isEqual a b then distinct isEqual (a :: more) else a :: distinct isEqual (b :: more)
termination_by ls => ls.length

/-- The parts of a text that null characters end. -/
def partsOf (t : Octets) : List Octets :=
  let parts := t.splitOn '\x00'
  if parts.getLast? = some [] then parts.dropLast else parts

def sort (ws : List Octets) : Tool Nat := do
  let p ← parsed
    { letters := "bdfghinrsucCmzVR", withArgument := "kto", status := 2
      long := [⟨"reverse", 'r', false⟩, ⟨"numeric-sort", 'n', false⟩, ⟨"unique", 'u', false⟩,
        ⟨"key", 'k', true⟩, ⟨"field-separator", 't', true⟩, ⟨"output", 'o', true⟩,
        ⟨"ignore-case", 'f', false⟩, ⟨"stable", 's', false⟩,
        ⟨"general-numeric-sort", 'g', false⟩, ⟨"human-numeric-sort", 'h', false⟩,
        ⟨"version-sort", 'V', false⟩, ⟨"zero-terminated", 'z', false⟩,
        ⟨"ignore-leading-blanks", 'b', false⟩, ⟨"dictionary-order", 'd', false⟩,
        ⟨"merge", 'm', false⟩] } ws
  let style := p.options.foldl (fun s o => s.withLetter o.1) ({} : SortStyle)
  let separator ← match p.last? 't' with
    | none => pure none
    | some ['\\', '0'] => pure (some '\x00')
    | some [c] => pure (some c)
    | some [] => fail 2 "empty tab".toList
    | some t => fail 2 ("multi-character tab ".toList ++ quoted t)
  let keys ← (p.options.filter (·.1 = 'k')).mapM fun (_, t) => do
    match SortKey.read? style t with
    | some k => return k
    | none => fail 2 ("-: invalid field specification ".toList ++ quoted t)
  let keys := if keys = [] then [SortKey.mk 1 1 none 0 style] else keys
  let paths := orStandardInput p.operands
  let texts ← paths.mapM fun path => do
    match ← content path with
    | .ok t => return t
    | .error reason =>
      let failure :=
        if ← isDirectory path then "read failed: "
        else if p.has 'c' || p.has 'C' then "open failed: "
        else "cannot read: "
      fail 2 (failure.toList ++ unreadable path reason)
  let lines := if p.has 'z' then texts.flatMap partsOf else texts.flatMap Octets.lines
  let order := keyOrder separator keys
  let isLast (a b : Octets) : Bool :=
    if style.isReverse then !decide (a < b) else !decide (b < a)
  let isBefore (a b : Octets) : Bool :=
    match order a b with
    | .lt => true
    | .gt => false
    | .eq => p.has 's' || p.has 'u' || isLast a b
  if p.has 'c' || p.has 'C' then
    let pairs := lines.zip lines.tail
    match pairs.zipIdx.find? fun ((a, b), _) =>
        order a b = .gt || (p.has 'u' && order a b = .eq) || !isBefore a b with
    | none => return 0
    | some ((_, b), i) =>
      if p.has 'c' then
        complain (paths.headD [] ++ ':' :: Octets.ofInt (i + 2) ++ ": disorder: ".toList ++ b)
      return 1
  else
    let sorted := lines.mergeSort isBefore
    let sorted := if p.has 'u' then distinct (fun a b => order a b = .eq) sorted else sorted
    let t := sorted.flatMap fun line => line ++ [if p.has 'z' then '\x00' else '\n']
    match p.last? 'o' with
    | none => print t
    | some path =>
      match ← store path t with
      | .ok () => pure ()
      | .error reason => fail 2 ("open failed: ".toList ++ unreadable path reason)
    return 0

/-! ### Equal neighbours -/

/-- Runs of lines with equal keys: the first of each and their number. -/
def runs (key : Octets → Octets) : List Octets → List (Octets × Nat)
  | [] => []
  | line :: more =>
    match runs key more with
    | (next, n) :: rest =>
      if key line = key next then (line, n + 1) :: rest else (line, 1) :: (next, n) :: rest
    | [] => [(line, 1)]

def uniq (ws : List Octets) : Tool Nat := do
  let p ← parsed
    { letters := "cdDuiz", withArgument := "fsw"
      long := [⟨"count", 'c', false⟩, ⟨"repeated", 'd', false⟩, ⟨"unique", 'u', false⟩,
        ⟨"ignore-case", 'i', false⟩, ⟨"skip-fields", 'f', true⟩, ⟨"skip-chars", 's', true⟩,
        ⟨"check-chars", 'w', true⟩] } ws
  let natural (c : Char) : Option Nat := (p.last? c).bind Octets.natural?
  let key (line : Octets) : Octets :=
    let t := ((fieldsOf none line).drop ((natural 'f').getD 0)).flatten
    let t := t.drop ((natural 's').getD 0)
    let t := match natural 'w' with
      | some n => t.take n
      | none => t
    if p.has 'i' then t.map Octets.toUpper else t
  let path := p.operands.headD ['-']
  let t ← match ← content path with
    | .ok t => pure t
    | .error reason => fail 1 (unreadable path reason)
  let found := (runs key (Octets.lines t)).filter fun r =>
    (!p.has 'd' || 1 < r.2) && (!p.has 'u' || r.2 = 1)
  let lines := found.map fun (line, n) =>
    let digits := Octets.ofInt n
    if p.has 'c' then List.replicate (7 - digits.length) ' ' ++ digits ++ ' ' :: line else line
  let t := Octets.unlines lines
  match p.operands with
  | [_, target] =>
    match ← store target t with
    | .ok () => return 0
    | .error reason => fail 1 (unreadable target reason)
  | _ =>
    print t
    return 0

/-! ### Common lines -/

/-- Something that comes out of a comparison of two files: a line that is only in the first,
only in the second or in both, or that a file is not in order. -/
inductive Difference where
  | line (column : Nat) (t : Octets)
  | disorder (file : Nat)
  deriving DecidableEq, Repr

/-- Where a comparison stands in one of the files: the lines that are left, and the two lines
before them, the last first. -/
structure Side where
  left : List Octets
  before : List Octets := []

namespace Side

def advance (s : Side) : Side := ⟨s.left.tail, s.left.take 1 ++ s.before.take 1⟩

/-- Whether the line at hand, or at the end of the file the last one, belongs before the line
in front of it. -/
def isDisordered (s : Side) : Bool :=
  match s.left, s.before with
  | line :: _, earlier :: _ => decide (line < earlier)
  | [], line :: earlier :: _ => decide (line < earlier)
  | _, _ => false

end Side

/-- The lines of two files in three columns. Whether they are in order matters, unless that
is not asked for, as soon as a line is only in one of them; it is said once of each file. -/
def merged (isChecked : Bool) : Nat → (hasSingle : Bool) → (told : List Nat) → Side → Side →
    List Difference
  | 0, _, _, _, _ => []
  | fuel + 1, hasSingle, told, a, b =>
    let column? : Option (Nat × Octets) := match a.left, b.left with
      | [], [] => none
      | x :: _, [] => some (0, x)
      | [], y :: _ => some (1, y)
      | x :: _, y :: _ => some (if x < y then (0, x) else if y < x then (1, y) else (2, x))
    match column? with
    | none => []
    | some (column, t) =>
      let hasSingle := hasSingle || column ≠ 2
      let next (n : Nat) (s : Side) : Side := if column = n || column = 2 then s.advance else s
      let (a', b') := (next 0 a, next 1 b)
      let isNew (n : Nat) (s : Side) : Bool :=
        isChecked && hasSingle && (column = n || column = 2) && n ∉ told && s.isDisordered
      let found := (if isNew 0 a' then [0] else []) ++ if isNew 1 b' then [1] else []
      .line column t :: found.map .disorder ++
        merged isChecked fuel hasSingle (told ++ found) a' b'

def comm (ws : List Octets) : Tool Nat := do
  let p ← parsed
    { letters := "123z", withArgument := "O"
      long := [⟨"nocheck-order", 'N', false⟩, ⟨"check-order", 'K', false⟩,
        ⟨"output-delimiter", 'O', true⟩] } ws
  match p.operands with
  | [] => misuse 1 "missing operand".toList
  | [a] => misuse 1 ("missing operand after ".toList ++ quoted a)
  | _ :: _ :: extra :: _ => misuse 1 ("extra operand ".toList ++ quoted extra)
  | [a, b] =>
    let lines ← [a, b].mapM fun path => do
      match ← content path with
      | .ok t => return Octets.lines t
      | .error reason => fail 1 (unreadable path reason)
    let (x, y) := (lines.headD [], (lines.drop 1).headD [])
    let isHidden (n : Nat) : Bool := p.has (Char.ofNat (49 + n))
    let tab := (p.last? 'O').getD ['\t']
    let mut isOrdered := true
    for d in merged (!p.has 'N') (x.length + y.length) (p.has 'K') [] ⟨x, []⟩ ⟨y, []⟩ do
      match d with
      | .line n t =>
        if !isHidden n then
          let tabs := ((List.range n).filter fun i => !isHidden i).flatMap fun _ => tab
          print (tabs ++ t ++ ['\n'])
      | .disorder n =>
        complain ("file ".toList ++ Octets.ofInt (n + 1) ++ " is not in sorted order".toList)
        isOrdered := false
        if p.has 'K' then stop 1
    if isOrdered then return 0 else fail 1 "input is not in sorted order".toList

end StyleSnapshot.Shell.Tool
