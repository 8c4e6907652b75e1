import StyleSnapshot.Shell.Tool.Basic

/-! The program that shows bytes.

The bytes are shown in rows. Each format adds a line to a row, where every group of bytes
has a field of its own; the fields of all formats take the same room. A row that is like
the one before it is left out. -/
namespace StyleSnapshot.Shell.Tool.Dump

/-! ### Formats -/

/-- How bytes are shown: the number of bytes in a group, the width of its field and its
text. -/
structure Format where
  size : Nat
  width : Nat
  shown : Nat → Octets
  /-- Whether the bytes themselves stand behind the fields. -/
  hasTrailer : Bool := false

def digits (base width n : Nat) : Octets :=
  let t := Octets.inBase base n
  List.replicate (width - t.length) '0' ++ t

/-- The sign of a byte, as an escape if it does not print. -/
def sign (n : Nat) : Octets :=
  let escapes : List (Nat × String) :=
    [(0, "\\0"), (7, "\\a"), (8, "\\b"), (9, "\\t"), (10, "\\n"), (11, "\\v"), (12, "\\f"),
      (13, "\\r")]
  match escapes.lookup n with
  | some t => t.toList
  | none => if 32 ≤ n && n < 127 then [Char.ofNat n] else digits 8 3 n

/-- The name of a byte, of which the highest bit does not count. -/
def named (n : Nat) : Octets :=
  let names : List String :=
    ["nul", "soh", "stx", "etx", "eot", "enq", "ack", "bel", "bs", "ht", "nl", "vt", "ff", "cr",
      "so", "si", "dle", "dc1", "dc2", "dc3", "dc4", "nak", "syn", "etb", "can", "em", "sub",
      "esc", "fs", "gs", "rs", "us", "sp"]
  let n := n % 128
  match names[n]? with
  | some name => name.toList
  | none => if n = 127 then "del".toList else [Char.ofNat n]

/-- The format that shows numbers of some bytes. -/
def ofNumbers (kind : Char) (size : Nat) : Format :=
  let bound := Nat.pow 256 size
  let width (base largest : Nat) : Nat := (Octets.inBase base largest).length
  if kind = 'x' then ⟨size, width 16 (bound - 1), digits 16 (width 16 (bound - 1)), false⟩
  else if kind = 'o' then ⟨size, width 8 (bound - 1), digits 8 (width 8 (bound - 1)), false⟩
  else if kind = 'u' then ⟨size, width 10 (bound - 1), fun n => Octets.ofInt n, false⟩
  else
    ⟨size, width 10 (bound / 2) + 1,
      fun n => Octets.ofInt (if 2 * n < bound then (n : Int) else (n : Int) - bound), false⟩

/-- The formats that a text writes. -/
def formats (whole : Octets) : Nat → Octets → Except Octets (List Format)
  | 0, _ => .ok []
  | fuel + 1, t =>
    let next (f : Format) (rest : Octets) : Except Octets (List Format) :=
      match rest with
      | 'z' :: rest => return { f with hasTrailer := true } :: (← formats whole fuel rest)
      | rest => return f :: (← formats whole fuel rest)
    match t with
    | [] => .ok []
    | 'a' :: rest => next ⟨1, 3, named, false⟩ rest
    | 'c' :: rest => next ⟨1, 3, sign, false⟩ rest
    | kind :: rest =>
      if kind ∈ "doux".toList then
        let count := rest.takeWhile Char.isDigit
        let (size, behind) := match count, rest with
          | [], 'C' :: behind => (1, behind)
          | [], 'S' :: behind => (2, behind)
          | [], 'I' :: behind => (4, behind)
          | [], 'L' :: behind => (8, behind)
          | [], behind => (4, behind)
          | count, behind => ((Octets.natural? count).getD 0, behind.drop count.length)
        if size ∈ [1, 2, 4, 8] then next (ofNumbers kind size) behind
        else
          .error ("invalid type string ".toList ++ quoted whole ++
            ";\nthis system doesn't provide a ".toList ++ Octets.ofInt size ++
            "-byte integral type".toList)
      else
        .error ("invalid character ".toList ++ quoted [kind] ++ " in type string ".toList ++
          quoted whole)

/-- The formats that options ask for. -/
def chosen (p : Parsed) : Except Octets (List Format) := do
  let short : List (Char × String) :=
    [('a', "a"), ('b', "o1"), ('c', "c"), ('d', "u2"), ('i', "d4"), ('l', "d8"), ('o', "o2"),
      ('s', "d2"), ('x', "x2"), ('h', "x2")]
  let found ← p.options.filterMapM fun (c, t) => do
    if c = 't' then return some (← formats t (t.length + 1) t)
    else
      match short.lookup c with
      | some t => return some (← formats t.toList (t.length + 1) t.toList)
      | none => return none
  return if found.flatten.isEmpty then [ofNumbers 'o' 2] else found.flatten

/-! ### Rows -/

/-- The numbers of groups of bytes, the lower byte first. -/
def groups (size : Nat) : Nat → Octets → List Nat
  | 0, _ => []
  | fuel + 1, t =>
    if t = [] then []
    else
      (t.take size).reverse.foldl (fun n c => n * 256 + c.toNat) 0 ::
        groups size fuel (t.drop size)

def rowsOf (width : Nat) : Nat → Octets → List Octets
  | 0, _ => []
  | fuel + 1, t => if t = [] then [] else t.take width :: rowsOf width fuel (t.drop width)

/-- The line of a format for a row of at most so many bytes, where all fields together have
some room. -/
def line (f : Format) (bytes room : Nat) (row : Octets) : Octets :=
  let fields := bytes / f.size
  let spare := room - f.width * fields
  let numbers := groups f.size row.length row
  let shareFrom (i : Nat) : Nat := spare * (fields - i) / fields
  let shown := numbers.zipIdx.flatMap fun (n, i) =>
    let t := f.shown n
    List.replicate (shareFrom i - shareFrom (i + 1) + f.width - t.length) ' ' ++ t
  if f.hasTrailer then
    let blank := fields - numbers.length
    let blanks := blank * f.width + spare * blank / fields
    shown ++ List.replicate blanks ' ' ++ "  >".toList ++
      row.map (fun c => if Quoted.isPlain c then c else '.') ++ ['<']
  else shown

/-- Rows with their positions, where a star stands for those that are like the one before. -/
def abridged (width : Nat) : (before : Option Octets) → (isStarred : Bool) →
    List (Octets × Nat) → List (Option (Octets × Nat))
  | _, _, [] => []
  | before, isStarred, (row, i) :: more =>
    if before = some row && row.length = width then
      (if isStarred then [] else [none]) ++ abridged width before true more
    else some (row, i) :: abridged width (some row) false more

/-! ### The program -/

def main (ws : List Octets) : Tool Nat := do
  let p ← parsed
    { letters := "abcdiloxvsh", withArgument := "AtNjw"
      long := [⟨"address-radix", 'A', true⟩, ⟨"format", 't', true⟩, ⟨"read-bytes", 'N', true⟩,
        ⟨"skip-bytes", 'j', true⟩, ⟨"width", 'w', true⟩, ⟨"output-duplicates", 'v', false⟩] } ws
  let natural (c : Char) : Option Nat := (p.last? c).bind Octets.natural?
  let fs ← match chosen p with
    | .ok fs => pure fs
    | .error message => fail 1 message
  let (base, digitCount) ← match p.last? 'A' with
    | some ['x'] => pure (16, 6)
    | some ['d'] => pure (10, 7)
    | some ['n'] => pure (0, 0)
    | none | some ['o'] => pure (8, 7)
    | some t =>
      fail 1 ("invalid output address radix ".toList ++ quoted (t.take 1) ++
        "; it must be one character from [doxn]".toList)
  let (texts, status) ← contents p.operands
  if texts = [] then stop status
  let skipped := (natural 'j').getD 0
  let whole := texts.flatten
  if whole.length < skipped then fail 1 "cannot skip past end of combined input".toList
  let t := whole.drop skipped
  let t := match natural 'N' with
    | some n => t.take n
    | none => t
  let width := (natural 'w').getD 16
  let room := (fs.map fun f => (f.width + 1) * (width / f.size)).foldl max 0
  let address (n : Nat) : Octets := if base = 0 then [] else digits base digitCount (n + skipped)
  let rows := (rowsOf width t.length t).zipIdx
  let rows := if p.has 'v' then rows.map some else abridged width none false rows
  for r in rows do
    match r with
    | none => print "*\n".toList
    | some (row, i) =>
      let leads := address (width * i) :: List.replicate fs.length (List.replicate digitCount ' ')
      print (Octets.unlines ((leads.zip fs).map fun (lead, f) => lead ++ line f width room row))
  if base ≠ 0 then print (address t.length ++ ['\n'])
  return status

end StyleSnapshot.Shell.Tool.Dump
