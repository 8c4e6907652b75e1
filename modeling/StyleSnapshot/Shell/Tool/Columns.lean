import StyleSnapshot.Shell.Tool.Lines

/-! Programs about the columns of lines. -/
namespace StyleSnapshot.Shell.Tool

/-! ### Selected columns -/

/-- Columns from one to another, counted from one; the last may be open. -/
structure Span where
  first : Nat
  last : Option Nat

def Span.contains (s : Span) (n : Nat) : Bool := s.first ≤ n && s.last.all (n ≤ ·)

/-- The spans that a list writes. -/
def spans (isField : Bool) (t : Octets) : Tool (List Span) := do
  let parts := (t.map fun c => if c = ' ' then ',' else c).splitOn ','
  let bad (part : Octets) : Tool Span :=
    misuse 1 ((if isField then "invalid field value ".toList
      else "invalid byte/character position ".toList) ++ quoted part)
  let position (n : Nat) : Tool Unit := do
    if n = 0 then
      misuse 1 (if isField then "fields are numbered from 1".toList
        else "byte/character positions are numbered from 1".toList)
  parts.mapM fun part => do
    match Text.cut? ['-'] part with
    | none =>
      match Octets.natural? part with
      | some n =>
        position n
        return ⟨n, some n⟩
      | none => if part = [] then do position 0; bad part else bad part
    | some ([], []) => misuse 1 "invalid range with no endpoint: -".toList
    | some (a, b) =>
      match if a = [] then some 1 else Octets.natural? a, b with
      | some n, [] =>
        position n
        return ⟨n, none⟩
      | some n, b =>
        match Octets.natural? b with
        | none => bad b
        | some m =>
          position n
          if m < n then misuse 1 "invalid decreasing range".toList
          return ⟨n, some m⟩
      | none, _ => bad a

/-- The items whose columns are selected. -/
def selected (isSelected : Nat → Bool) (items : List α) : List α :=
  (items.zipIdx.filter fun item => isSelected (item.2 + 1)).map (·.1)

def cut (ws : List Octets) : Tool Nat := do
  let p ← parsed
    { letters := "nsz", withArgument := "bcfdO"
      long := [⟨"bytes", 'b', true⟩, ⟨"characters", 'c', true⟩, ⟨"fields", 'f', true⟩,
        ⟨"delimiter", 'd', true⟩, ⟨"only-delimited", 's', false⟩, ⟨"complement", 'C', false⟩,
        ⟨"output-delimiter", 'O', true⟩] } ws
  let lists := p.options.filter fun o => o.1 ∈ "bcf".toList
  let (kind, list) ← match lists with
    | [] => misuse 1 "you must specify a list of bytes, characters, or fields".toList
    | [l] => pure l
    | _ => misuse 1 "only one list may be specified".toList
  let delimiter ← match p.last? 'd' with
    | none => pure '\t'
    | some [c] => pure c
    | some [] => pure '\x00'
    | some _ => misuse 1 "the delimiter must be a single character".toList
  if kind ≠ 'f' && (p.last? 'd').isSome then
    misuse 1 "an input delimiter may be specified only when operating on fields".toList
  if kind ≠ 'f' && p.has 's' then
    misuse 1 "suppressing non-delimited lines makes sense\n\tonly when operating on fields".toList
  let ss ← spans (kind = 'f') list
  let isSelected (n : Nat) : Bool := (ss.any (·.contains n)) != p.has 'C'
  let joint := (p.last? 'O').getD (if kind = 'f' then [delimiter] else [])
  let shown (line : Octets) : Option Octets :=
    if kind = 'f' then
      if delimiter ∈ line then
        some (Text.join joint (selected isSelected (line.splitOn delimiter)))
      else if p.has 's' then none
      else some line
    else some (selected isSelected line)
  eachFile unreadable p.operands fun t =>
    print (Octets.unlines ((Octets.lines t).filterMap shown))

/-! ### Columns side by side -/

/-- The rows of columns that are filled up with empty cells. -/
def rows : Nat → List (List Octets) → List (List Octets)
  | 0, _ => []
  | n + 1, columns =>
    columns.map (fun column => column.headD []) :: rows n (columns.map (·.tail))

/-- Cells joined by delimiters that are used in turn. -/
def joinedBy (delimiters : List Octets) : (n : Nat) → List Octets → Octets
  | _, [] => []
  | _, [cell] => cell
  | n, cell :: more =>
    cell ++ (delimiters[n % delimiters.length]?.getD []) ++ joinedBy delimiters (n + 1) more

/-- The delimiters that a list writes; one may be empty. -/
def delimiters : Octets → List Octets
  | '\\' :: 'n' :: rest => ['\n'] :: delimiters rest
  | '\\' :: 't' :: rest => ['\t'] :: delimiters rest
  | '\\' :: '\\' :: rest => ['\\'] :: delimiters rest
  | '\\' :: '0' :: rest => [] :: delimiters rest
  | c :: rest => [c] :: delimiters rest
  | [] => []

/-- The columns of files, where standard input is dealt out line by line to all that stand
for it. -/
def dealt (paths : List Octets) (columns : List (List Octets)) : List (List Octets) :=
  let lines := ((paths.zip columns).filter fun c => isStandardInput c.1).flatMap (·.2)
  let count := (paths.filter isStandardInput).length
  let share (i : Nat) : List Octets :=
    (lines.zipIdx.filter fun line => line.2 % count = i).map (·.1)
  ((paths.zip columns).foldl (fun (i, dealt) (path, column) =>
    if isStandardInput path then (i + 1, share i :: dealt) else (i, column :: dealt))
    (0, [])).2.reverse

def paste (ws : List Octets) : Tool Nat := do
  let p ← parsed
    { letters := "sz", withArgument := "d"
      long := [⟨"serial", 's', false⟩, ⟨"delimiters", 'd', true⟩] } ws
  let ds := match delimiters ((p.last? 'd').getD ['\t']) with
    | [] => [[]]
    | ds => ds
  let paths := orStandardInput p.operands
  let columns ← paths.mapM fun path => do
    match ← content path with
    | .ok t => return Octets.lines t
    | .error reason => fail 1 (unreadable path reason)
  let columns := if p.has 's' then columns else dealt paths columns
  let lines :=
    if p.has 's' then columns.map (joinedBy ds 0)
    else (rows ((columns.map (·.length)).foldl max 0) columns).map (joinedBy ds 0)
  print (Octets.unlines lines)
  return 0

/-! ### Widths -/

/-- The line in pieces of at most a width, which break behind blanks if that is wanted. -/
def folded (width : Nat) (atBlanks : Bool) : Nat → Octets → List Octets
  | 0, t => [t]
  | fuel + 1, t =>
    if t.length ≤ width then [t]
    else
      let piece := t.take width
      let behind := (piece.reverse.takeWhile (· ≠ ' ')).length
      let count := if atBlanks && behind < width then width - behind else width
      t.take count :: folded width atBlanks fuel (t.drop count)

def fold (ws : List Octets) : Tool Nat := do
  let ws := match ws with
    | ('-' :: digits) :: more =>
      if digits ≠ [] && digits.all Char.isDigit then "-w".toList :: digits :: more else ws
    | ws => ws
  let p ← parsed
    { letters := "bs", withArgument := "w"
      long := [⟨"bytes", 'b', false⟩, ⟨"spaces", 's', false⟩, ⟨"width", 'w', true⟩] } ws
  let width ← match p.last? 'w' with
    | none => pure 80
    | some w =>
      match (Octets.natural? w).filter (0 < ·) with
      | some n => pure n
      | none => fail 1 ("invalid number of columns: ".toList ++ quoted w)
  eachFile unreadable p.operands fun t => print ((Text.lines t).flatMap fun line =>
    let isEnded := line.getLast? = some '\n'
    let body := if isEnded then line.dropLast else line
    Text.join ['\n'] (folded width (p.has 's') body.length body) ++
      if isEnded then ['\n'] else [])

/-! ### Bytes as letters -/

def base64Letters : List Char :=
  "ABCDEFGHIJKLMNOPQRSTUVWXYZabcdefghijklmnopqrstuvwxyz0123456789+/".toList

def base64Letter (n : Nat) : Char := base64Letters.getD (n % 64) 'A'

/-- Three bytes at a time as four letters. -/
def encoded : Octets → Octets
  | a :: b :: c :: rest =>
    let n := (a.toNat * 256 + b.toNat) * 256 + c.toNat
    base64Letter (n / 262144) :: base64Letter (n / 4096) :: base64Letter (n / 64) ::
      base64Letter n :: encoded rest
  | [a, b] =>
    let n := (a.toNat * 256 + b.toNat) * 256
    [base64Letter (n / 262144), base64Letter (n / 4096), base64Letter (n / 64), '=']
  | [a] =>
    let n := a.toNat * 65536
    [base64Letter (n / 262144), base64Letter (n / 4096), '=', '=']
  | [] => []

/-- The bytes of groups of four letters, and whether nothing else stands behind them. -/
def decoded : Octets → Octets × Bool
  | a :: b :: c :: d :: rest =>
    match base64Letters.idxOf? a, base64Letters.idxOf? b, base64Letters.idxOf? c,
      base64Letters.idxOf? d with
    | some w, some x, some y, some z =>
      let n := ((w * 64 + x) * 64 + y) * 64 + z
      let (more, isWhole) := decoded rest
      (Char.ofNat (n / 65536) :: Char.ofNat (n / 256 % 256) :: Char.ofNat (n % 256) :: more, isWhole)
    | some w, some x, some y, none =>
      let n := (w * 64 + x) * 64 + y
      ([Char.ofNat (n / 1024), Char.ofNat (n / 4 % 256)], d = '=' && rest = [])
    | some w, some x, none, none =>
      ([Char.ofNat ((w * 64 + x) / 16)], c = '=' && d = '=' && rest = [])
    | _, _, _, _ => ([], false)
  | [a, b, c] =>
    match base64Letters.idxOf? a, base64Letters.idxOf? b, base64Letters.idxOf? c with
    | some w, some x, some y =>
      let n := (w * 64 + x) * 64 + y
      ([Char.ofNat (n / 1024), Char.ofNat (n / 4 % 256)], false)
    | _, _, _ => ([], false)
  | [a, b] =>
    match base64Letters.idxOf? a, base64Letters.idxOf? b with
    | some w, some x => ([Char.ofNat ((w * 64 + x) / 16)], false)
    | _, _ => ([], false)
  | [_] => ([], false)
  | [] => ([], true)

def base64 (ws : List Octets) : Tool Nat := do
  let p ← parsed
    { letters := "di", withArgument := "w"
      long := [⟨"decode", 'd', false⟩, ⟨"ignore-garbage", 'i', false⟩, ⟨"wrap", 'w', true⟩] } ws
  let t ← match ← content (p.operands.headD ['-']) with
    | .ok t => pure t
    | .error reason => fail 1 (unreadable (p.operands.headD ['-']) reason)
  if p.has 'd' then
    let t := t.filter fun c => c ≠ '\n' && (!p.has 'i' || c = '=' || c ∈ base64Letters)
    let (bytes, isWhole) := decoded t
    print bytes
    if isWhole then return 0 else fail 1 "invalid input".toList
  else
    let width ← match p.last? 'w' with
      | none => pure 76
      | some w =>
        match Octets.natural? w with
        | some n => pure n
        | none => fail 1 ("invalid wrap size: ".toList ++ quoted w)
    let letters := encoded t
    if width = 0 then print letters
    else if letters ≠ [] then
      print (Octets.unlines (folded width false letters.length letters))
    return 0

end StyleSnapshot.Shell.Tool
