import StyleSnapshot.Shell.Tool.Regex.Basic

/-! Reading regular expressions.

There are two spellings: the basic one, where signs with a meaning of their own mostly
stand behind backslashes, and the extended one, where a backslash takes a meaning away. They
differ further in what becomes of a repetition with nothing to repeat (`Spelling`). -/
namespace StyleSnapshot.Shell.Tool.Regex

/-- How expressions are written. -/
structure Spelling where
  isExtended : Bool := false
  /-- Whether a repetition of nothing, or in the basic spelling of a repetition, is a fault. -/
  isStrict : Bool := false
  /-- Whether brackets are faults that look like a class, or whose ranges are empty. -/
  checksBrackets : Bool := true

/-- The text that is left, the number of the next group, how many groups are open, and the
groups that are closed; and what is doubtful in what has been read. -/
structure Cursor where
  rest : Octets
  next : Nat := 1
  depth : Nat := 0
  closed : List Nat := []
  warnings : List String := []

abbrev Reader := StateT Cursor (Except String)

def take : Reader (Option Char) := do
  let k ← get
  match k.rest with
  | [] => return none
  | c :: rest =>
    set { k with rest := rest }
    return some c

/-- Whether a text stands here, which is then passed. -/
def passes (t : String) : Reader Bool := do
  let k ← get
  match Text.after? t.toList k.rest with
  | some rest =>
    set { k with rest := rest }
    return true
  | none => return false

def isAhead (t : String) : Reader Bool := return Text.startsWith t.toList (← get).rest

/-! ### Brackets -/

/-- What stands between brackets: characters, the first ones of ranges too, and classes,
which have no place in a range. -/
inductive Element where
  | char (c : Char)
  | group (m : Pattern.Member)

def unmatchedBracket : String := "Unmatched [, [^, [:, [., or [="

/-- The element that stands here. -/
def element : Reader Element := do
  let named (closing : String) (rest : Octets) : Reader Octets := do
    match Text.cut? closing.toList rest with
    | some (name, behind) =>
      modify fun k => { k with rest := behind }
      return name
    | none => throw unmatchedBracket
  let collated (name : Octets) : Reader Char := do
    match name with
    | [c] => return c
    | _ => throw "Invalid collation character"
  match (← get).rest with
  | [] => throw unmatchedBracket
  | '[' :: ':' :: rest =>
    let name ← named ":]" rest
    if (Octets.inClass? name 'a').isNone then throw "Invalid character class name"
    return .group (.named name)
  | '[' :: '=' :: rest => return .group (.single (← collated (← named "=]" rest)))
  | '[' :: '.' :: rest => return .char (← collated (← named ".]" rest))
  | c :: rest =>
    modify fun k => { k with rest := rest }
    return .char c

/-- The members of a class up to its closing bracket. -/
def members (s : Spelling) : Nat → (isFirst : Bool) → Reader (List Pattern.Member)
  | 0, _ => throw unmatchedBracket
  | fuel + 1, isFirst => do
    let isClosed ← if isFirst then pure false else passes "]"
    if isClosed then return []
    let isHyphen ← isAhead "-"
    match ← element with
    | .group m => return m :: (← members s fuel false)
    | .char c =>
      match (← get).rest with
      | ['-'] => throw unmatchedBracket
      | '-' :: d :: rest =>
        if d = ']' then return .single c :: (← members s fuel false)
        else
          modify fun k => { k with rest := d :: rest }
          match ← element with
          | .group _ => throw "Invalid range end"
          | .char d =>
            if s.checksBrackets && d < c then throw "Invalid range end"
            else return .range c d :: (← members s fuel false)
      | rest =>
        -- A hyphen that is no range stands first or last.
        if isHyphen && !isFirst && rest.head? ≠ some ']' then throw "Invalid range end"
        else return .single c :: (← members s fuel false)

/-- What is said of brackets that look like the name of a class. -/
def barredClass : String := "character class syntax is [[:space:]], not [:space:]"

/-- Whether members look like the name of a class between its colons. -/
def looksNamed (ms : List Pattern.Member) : Bool :=
  let isColon (m : Pattern.Member) : Bool := m = .single ':'
  let isSingle (m : Pattern.Member) : Bool := match m with
    | .single _ => true
    | _ => false
  ms.all isSingle && ms.head?.any isColon && ms.getLast?.any isColon && !ms.all isColon

/-- The class behind an opening bracket. -/
def bracket (s : Spelling) : Reader Regex := do
  let isNegated ← passes "^"
  if (← get).rest = [] then throw "Invalid regular expression"
  let ms ← members s ((← get).rest.length + 1) true
  if s.checksBrackets && looksNamed ms then throw barredClass
  return .single (.member isNegated ms)

/-! ### Repetitions -/

/-- A number in a repetition, read up to a comma, what closes the repetition, or the end. -/
inductive Bound where
  | missing
  | number (n : Nat)
  | bad

def Bound.ofText (t : Octets) : Bound :=
  if t = [] then .missing
  else
    match Octets.natural? t with
    | some n => .number n
    | none => .bad

/-- The greatest number of a repetition. -/
def mostRounds : Nat := 32767

/-- The text up to a comma or what closes a repetition. -/
def boundText (closing : Octets) : Octets → Octets
  | [] => []
  | c :: rest =>
    if c = ',' || Text.startsWith closing (c :: rest) then [] else c :: boundText closing rest

/-- The numbers of a repetition behind what opens it; none if this opens no repetition. -/
def bounds? (s : Spelling) (closing : String) : Reader (Option (Nat × Option Nat)) := do
  let before ← get
  let bound : Reader Bound := do
    let t := boundText closing.toList (← get).rest
    modify fun k => { k with rest := k.rest.drop t.length }
    return .ofText t
  let invalid : String := "Invalid content of \\\x7b\\\x7d"
  let malformed : Reader (Option (Nat × Option Nat)) := do
    if s.isExtended && !s.isStrict then
      set before
      return none
    else throw (if (← get).rest = [] then "Unmatched \\\x7b" else invalid)
  let closed (least : Nat) (most : Option Nat) : Reader (Option (Nat × Option Nat)) := do
    if most.any (· < least) || !(← passes closing) then throw invalid
    if mostRounds < most.getD least then throw "Regular expression too big"
    return some (least, most)
  let first ← bound
  match first, (← get).rest with
  | .bad, _ | _, [] => malformed
  | first, ',' :: rest =>
    let least := match first with
      | .number n => n
      | _ => 0
    set { before with rest := rest }
    match ← bound, (← get).rest with
    | .bad, _ | _, [] => malformed
    | .missing, _ => closed least none
    | .number most, _ => closed least (some most)
  | .number n, _ => closed n (some n)
  | .missing, _ => throw invalid

/-- The repetition that stands here, if there is one. -/
def repetition? (s : Spelling) : Reader (Option (Nat × Option Nat)) := do
  if ← passes "*" then return some (0, none)
  else if ← passes (if s.isExtended then "+" else "\\+") then return some (1, none)
  else if ← passes (if s.isExtended then "?" else "\\?") then return some (0, some 1)
  else
    let before ← get
    if ← passes (if s.isExtended then "\x7b" else "\\\x7b") then
      match ← bounds? s (if s.isExtended then "\x7d" else "\\\x7d") with
      | some r => return some r
      | none =>
        set before
        return none
    else return none

/-- Notes that a repetition stands where an expression begins, given its first sign. -/
def doubt (sign : Char) : Reader Unit :=
  let shown : String := if sign = '\x7b' then "\x7b...\x7d" else String.ofList [sign]
  modify fun k => { k with warnings := k.warnings ++ [shown ++ " at start of expression"] }

/-- Goes on with repetitions of what has been read, which are doubtful if that is nothing but
edges; numbers end the doubt. -/
def repeated (s : Spelling) : Nat → (isDoubtful : Bool) → Regex → Reader Regex
  | 0, _, r => return r
  | fuel + 1, isDoubtful, r => do
    let sign := (← get).rest.headD '*'
    match ← repetition? s with
    | none => return r
    | some (least, most) =>
      if isDoubtful then doubt sign
      if s.isStrict && !s.isExtended && ((← isAhead "*") || (← isAhead "\\\x7b")) then
        throw "Invalid preceding regular expression"
      repeated s fuel (isDoubtful && sign ≠ '\x7b') (.repetition r least most)

/-- Whether repetitions have been passed since a text was left, all of them without numbers. -/
def hasRepeated (before : Octets) : Reader Bool := do
  let signs := before.take (before.length - (← get).rest.length)
  return signs ≠ [] && '\x7b' ∉ signs

/-! ### Branches -/

/-- What stands before a place in a branch. -/
inductive Before where
  | nothing
  | edges
  | edge
  | some
  deriving DecidableEq

def isEdge : Regex → Bool
  | .edge _ => true
  | _ => false

/-- What stands before the place behind an atom. -/
def Before.next (b : Before) (r : Regex) : Before :=
  if !isEdge r then .some
  else if b = .nothing || b = .edges then .edges
  else .edge

/-- Whether nothing stands before a place that could be repeated. -/
def Before.isBare (b : Before) (s : Spelling) : Bool :=
  b = .nothing || b = .edges || (s.isStrict && b = .edge)

/-- Whether an expression or a branch of it is over here. -/
def isOver (s : Spelling) : Reader Bool := do
  let k ← get
  if k.rest = [] then return true
  else if s.isExtended then
    return (← isAhead "|") || ((← isAhead ")") && (s.isStrict || k.depth ≠ 0))
  else return (← isAhead "\\|") || (← isAhead "\\)")

/-- What a letter behind a backslash stands for in both spellings. -/
def escaped (c : Char) : Reader Regex := do
  let word : List Pattern.Member := [.named "alnum".toList, .single '_']
  let space : List Pattern.Member := [.named "space".toList]
  if c = 'w' then return .single (.member false word)
  else if c = 'W' then return .single (.member true word)
  else if c = 's' then return .single (.member false space)
  else if c = 'S' then return .single (.member true space)
  else if c = 'b' then return .edge (.word true)
  else if c = 'B' then return .edge (.word false)
  else if c = '<' then return .edge .wordStart
  else if c = '>' then return .edge .wordEnd
  else if c = '\x60' then return .edge .textStart
  else if c = '\'' then return .edge .textEnd
  else if c.isDigit && c ≠ '0' then
    if c.toNat - 48 ∈ (← get).closed then return .again (c.toNat - 48)
    else throw "Invalid back reference"
  else return .single (.char c)

/-- A group behind what opens it. -/
def grouped (s : Spelling) (inner : Reader Regex) : Reader Regex := do
  let n := (← get).next
  modify fun k => { k with next := n + 1, depth := k.depth + 1 }
  let r ← inner
  if !(← passes (if s.isExtended then ")" else "\\)")) then throw "Unmatched ( or \\("
  modify fun k => { k with depth := k.depth - 1, closed := n :: k.closed }
  return .group n r

/-- The least part of a branch. What would repeat it stands for itself in the basic spelling
where there is nothing to repeat, and what closes a group does behind such a repetition without
numbers. -/
def atom (s : Spelling) (b : Before) (inner : Reader Regex) : Reader Regex := do
  let char (c : Char) : Regex := .single (.char c)
  let isBare := b.isBare s
  if s.isExtended && isBare then
    if s.isStrict then
      if (← get).rest.head?.any (· ∈ "*+?\x7b".toList) then
        throw "Invalid preceding regular expression"
    else if b = .nothing then
      let before := (← get).rest
      let _ ← repeated s before.length true .nothing
      if ← hasRepeated before then
        if ← passes ")" then return char ')'
      if ← isOver s then return .nothing
  match ← take with
  | none => return .nothing
  | some '.' => return .single .any
  | some '[' => bracket s
  | some '^' =>
    if s.isExtended || b = .nothing then return .edge .lineStart else return char '^'
  | some '$' => do
    if s.isExtended || (← isOver s) then return .edge .lineEnd else return char '$'
  | some '(' => if s.isExtended then grouped s inner else return char '('
  | some '\\' =>
    match ← take with
    | none => throw "Trailing backslash"
    | some '(' => if s.isExtended then return char '(' else grouped s inner
    | some c =>
      if s.isExtended && c ∈ "|)\x7b\x7d+?".toList then return char c
      else if !s.isExtended && s.isStrict && isBare && c = '\x7b' then
        throw "Invalid preceding regular expression"
      else escaped c
  | some c => return char c

/-- A branch: atoms with their repetitions. -/
def branch (s : Spelling) (inner : Reader Regex) : Nat → Before → Reader Regex
  | 0, _ => return .nothing
  | fuel + 1, b => do
    if ← isOver s then return .nothing
    let a ← atom s b inner
    let next := b.next a
    let isFixed := isEdge a && (s.isStrict || (!s.isExtended && next = .edges))
    let before := (← get).rest
    let isDoubtful := s.isExtended && next = .edges
    let a ← if isFixed then pure a else repeated s before.length isDoubtful a
    -- What closes a group stands for itself behind a repeated edge.
    let isBehind ← if s.isExtended && next ≠ .some then hasRepeated before else pure false
    let isLiteral ← if isBehind then passes ")" else pure false
    let a : Regex := if isLiteral then .both a (.single (.char ')')) else a
    match ← branch s inner fuel next with
    | .nothing => return a
    | more => return .both a more

/-- Branches with signs between them, behind those on the left and the groups they close. No
branch refers back to a group of another one. -/
def alternatives (s : Spelling) : Nat → Option (Regex × List Nat) → Reader Regex
  | 0, _ => return .nothing
  | fuel + 1, left => do
    let before := (← get).closed
    let b ← branch s (alternatives s fuel none) ((← get).rest.length + 1) .nothing
    let closed := (← get).closed
    let (r, closed) := match left with
      | none => (b, closed)
      | some (a, others) => (.either a b, others ++ closed)
    if ← passes (if s.isExtended then "|" else "\\|") then
      modify fun k => { k with closed := before }
      alternatives s fuel (some (r, closed))
    else
      modify fun k => { k with closed := closed }
      return r

/-- An expression that has been read, with the number of its groups and what is doubtful in
it. -/
structure Reading where
  regex : Regex
  groups : Nat
  warnings : List String

/-- The expression that a text writes. -/
def read (s : Spelling) (t : Octets) : Except String Reading :=
  match (alternatives s (t.length + 1) none).run { rest := t } with
  | .error e => .error e
  | .ok (r, k) =>
    if k.rest = [] then .ok ⟨r, k.next - 1, k.warnings⟩ else .error "Unmatched ) or \\)"

end StyleSnapshot.Shell.Tool.Regex
