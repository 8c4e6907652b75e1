import StyleSnapshot.Shell.Reader.Word

/-! Reading commands.

A script is read one line of commands at a time, so that what a line does can come before
an error in the next. Words are reserved only where a command may begin or where a
construct asks for them. -/
namespace StyleSnapshot.Shell.Reader

/-! ### Tokens -/

def reservedWords : List Octets :=
  ["!".toList, "case".toList, "do".toList, "done".toList, "elif".toList, "else".toList,
    "esac".toList, "fi".toList, "for".toList, "if".toList, "in".toList, "then".toList,
    "until".toList, "while".toList, "\x7b".toList, "\x7d".toList]

/-- The text of a word without quotes and substitutions. -/
def bareText? (w : Written) : Option Octets :=
  match w.isQuoted, w.word with
  | false, [.literal t false] => some t
  | _, _ => none

/-- A redirection sign that begins with a character, and the descriptor it is about when
none is given. -/
def redirectionFrom (c : Char) : Reader (Nat × Octets) := do
  let d ← next
  if c = '>' then
    if d = some '>' || d = some '|' || d = some '&' then return (1, c :: d.toList)
    unread? d
    return (1, [c])
  else if d = some '<' then
    match ← next with
    | some '-' => return (0, "<<-".toList)
    | e => unread? e; return (0, "<<".toList)
  else if d = some '&' || d = some '>' then return (0, c :: d.toList)
  unread? d
  return (0, [c])

/-- A token that begins with a word, or a redirection that a digit stands in front of. -/
def wordToken (n : Nested) (isMarker : Bool) : Reader Token := do
  let w ← word n isMarker
  let single : Option Nat :=
    match w.isQuoted, w.word with
    | false, [] => none
    | false, [.literal [c] false] => if c.isDigit then some (c.toNat - 48) else none
    | _, _ => none
  let isTarget := !w.isQuoted && (w.word.isEmpty || single.isSome)
  match (← get).rest with
  | c :: rest =>
    if isTarget && (c = '<' || c = '>') then
      modify fun k => { k with rest := rest }
      let (usual, sign) ← redirectionFrom c
      return .redirection (single.getD usual) sign
    else return .word w
  | [] => return .word w

/-- An operator of one character, or of that character twice. -/
def operatorFrom (c : Char) : Reader Token := do
  let d ← next
  if d = some c then return .operator [c, c]
  unread? d
  return .operator [c]

/-- The next token of the text. -/
def freshToken (n : Nested) (isMarker : Bool) : Reader Token :=
  loop (fun (_ : Unit) => do
    match ← next with
    | none => pure (.inr .ending)
    | some c =>
      if c = ' ' || c = '\t' then pure (.inl ())
      else if c = '#' then
        modify fun k => { k with rest := k.rest.dropWhile (· ≠ '\n') }
        pure (.inl ())
      else if c = '\n' then pure (.inr .newline)
      else if c = '&' || c = '|' || c = ';' then .inr <$> operatorFrom c
      else if c = '(' || c = ')' then pure (.inr (.operator [c]))
      else
        unread c
        .inr <$> wordToken n isMarker) ()

def push (t : Token) : Reader Unit := modify fun k => { k with pushed := some t }

/-- The token that was read before and is still to be used, or else the next one. -/
def heldToken (n : Nested) (isMarker : Bool) : Reader Token := do
  match (← get).pushed with
  | some t =>
    modify fun k => { k with pushed := none }
    pure t
  | none => freshToken n isMarker

/-- The first token from here on that is no line break. -/
def behindBreaks (n : Nested) (t : Token) : Reader Token :=
  loop (fun (t : Token) => do
    match t with
    | .newline =>
      documents n
      .inl <$> freshToken n false
    | t => pure (.inr t)) t

/-- Puts the text of an alias in the place of a word that has just been read, unless the word
is part of that text, and tells whether it did. The length is what was left of the script
before the word. Behind an alias that ends in a blank, any word may be one. -/
def replaces (knowsAliases : Bool) (before : Nat) (name : Octets) : Reader Bool := do
  let k ← get
  if k.aliases.isEmpty then return false
  let left := k.rest.length
  let isNext := k.replacements.any fun r => r.goesOn && r.left ≤ before && left < r.left
  let isInside := k.replacements.any fun r => r.name = name && r.left ≤ left
  match if (knowsAliases || isNext) && !isInside then k.aliases.lookup name else none with
  | none => return false
  | some text =>
    let goesOn := text.getLast?.any fun c => c = ' ' || c = '\t'
    set { k with
      rest := text ++ k.rest
      replacements := ⟨name, left, goesOn⟩ :: k.replacements.filter fun r => r.left ≤ left }
    return true

/-- The next token, where line breaks may be skipped and words may be reserved or aliases. -/
def tokenWith (n : Nested) (skipsBreaks knowsReserved knowsAliases : Bool) : Reader Token :=
  loop (fun (_ : Unit) => do
    let before := (← get).rest.length
    let t ← heldToken n false
    let t ← if skipsBreaks then behindBreaks n t else pure t
    match t with
    | .word w =>
      match bareText? w with
      | some t =>
        if knowsReserved && t ∈ reservedWords then return .inr (.reserved t)
        else if ← replaces knowsAliases before t then return .inl ()
        else return .inr (.word w)
      | none => return .inr (.word w)
    | t => return .inr t) ()

/-- The next token, where line breaks may be skipped and words may be reserved. -/
def token (n : Nested) (skipsBreaks knowsReserved : Bool) : Reader Token :=
  tokenWith n skipsBreaks knowsReserved false

/-- The next token where a command may begin. -/
def firstToken (n : Nested) (skipsBreaks : Bool) : Reader Token :=
  tokenWith n skipsBreaks true true

/-- Gives up because of a token that does not belong here. -/
def unexpected (t : Token) (wanted : Option String) : Reader α := do
  let reason := t.description ++ " unexpected".toList ++
    match wanted with
    | some w => " (expecting ".toList ++ w.toList ++ ")".toList
    | none => []
  throw ⟨(← get).line, "Syntax error: ".toList ++ reason⟩

def isReserved (s : String) : Token → Bool
  | .reserved t => t = s.toList
  | _ => false

def isOperator (s : String) : Token → Bool
  | .operator t => t = s.toList
  | _ => false

/-- Reads a reserved word that has to stand here. -/
def demand (n : Nested) (skipsBreaks : Bool) (s : String) : Reader Unit := do
  let t ← token n skipsBreaks true
  if isReserved s t then pure () else unexpected t (some ("\"" ++ s ++ "\""))

/-! ### Redirections -/

/-- The redirection that a sign announces, whose target follows. -/
def redirection (n : Nested) (descriptor : Nat) (sign : Octets) : Reader Redirection := do
  let isMarker := sign = "<<".toList || sign = "<<-".toList
  match ← heldToken n isMarker with
  | .word w =>
    match String.ofList sign with
    | "<" => return .file descriptor .input w.word
    | ">" => return .file descriptor .output w.word
    | ">|" => return .file descriptor .replace w.word
    | ">>" => return .file descriptor .append w.word
    | "<>" => return .file descriptor .both w.word
    | "<&" | ">&" => return .copy descriptor w.word
    | _ =>
      let marker := w.word.flatMap fun
        | .literal t _ => t
        | _ => []
      let number := (← get).next
      modify fun k =>
        { k with
          next := number + 1
          announced := k.announced ++ [⟨number, marker, w.isQuoted, sign = "<<-".toList⟩] }
      return .document descriptor number
  | t => unexpected t none

/-- The redirections that stand here. -/
def redirections (n : Nested) : Reader (List Redirection) :=
  loop (fun (soFar : List Redirection) => do
    match ← token n false true with
    | .redirection descriptor sign => return .inl ((← redirection n descriptor sign) :: soFar)
    | t =>
      push t
      pure (.inr soFar.reverse)) []

/-! ### Simple commands -/

/-- The assignment that a word is. -/
def assigned? (w : Written) : Option (Octets × Word) :=
  match w.word with
  | .literal t false :: more =>
    (assignment? t).map fun r =>
      (r.1, if r.2 = [] then more else .literal r.2 false :: more)
  | _ => none

/-- A simple command in the making, the last things first. -/
structure Call where
  assignments : List (Octets × Word) := []
  words : List Written := []
  redirections : List Redirection := []

/-- Commands that are part of the language, whose names no function may have. -/
def specialNames : List Octets :=
  [".".toList, ":".toList, "break".toList, "continue".toList, "eval".toList, "exec".toList,
    "exit".toList, "export".toList, "readonly".toList, "return".toList, "set".toList,
    "shift".toList, "times".toList, "trap".toList, "unset".toList]

/-- The definition of a function, from behind the parenthesis after its name. -/
def definition (n : Nested) (command : Reader Command) (w : Written) : Reader Command := do
  let t ← token n false false
  if !isOperator ")" t then unexpected t (some "\")\"")
  match bareText? w with
  | some name =>
    if isName name && name ∉ specialNames then
      push (← firstToken n true)
      return .definition name (← command)
    else fail "Syntax error: Bad function name"
  | none => fail "Syntax error: Bad function name"

/-- A call of a program, or the definition of a function. -/
def simple (n : Nested) (command : Reader Command) : Reader Command := do
  let line := (← get).line
  loop (fun (c : Call) => do
    match ← tokenWith n false false c.words.isEmpty with
    | .word w =>
      match if c.words.isEmpty then assigned? w else none with
      | some a => pure (.inl { c with assignments := a :: c.assignments })
      | none => pure (.inl { c with words := w :: c.words })
    | .redirection descriptor sign =>
      let r ← redirection n descriptor sign
      pure (.inl { c with redirections := r :: c.redirections })
    | t =>
      match isOperator "(" t, c.words with
      | true, [w] =>
        if c.assignments.isEmpty && c.redirections.isEmpty then
          .inr <$> definition n command w
        else
          push t
          pure (.inr (.simple line c.assignments.reverse [w.word] c.redirections.reverse))
      | _, words =>
        push t
        pure (.inr (.simple line c.assignments.reverse (words.reverse.map (·.word))
          c.redirections.reverse))) ({} : Call)

/-! ### Compound commands -/

/-- Commands that are part of a construct. Where the script ends instead there are none,
and the word that should follow them will be missed. -/
def block (n : Nested) : Reader Command :=
  return (← n.commands .block).getD (.simple 0 [] [] [])

/-- The branches from behind the first reserved word, up to the one that ends them. -/
def branches (n : Nested) : Nat → Reader Command
  | 0 => fail "Syntax error: too deep"
  | fuel + 1 => do
    let condition ← block n
    demand n false "then"
    let yes ← block n
    let t ← token n false true
    if isReserved "elif" t then return .branch condition yes (some (← branches n fuel))
    else if isReserved "else" t then return .branch condition yes (some (← block n))
    else
      push t
      return .branch condition yes none

/-- The words that a loop goes through. -/
def eachWords (n : Nested) : Reader (List Word) :=
  loop (fun (soFar : List Word) => do
    match ← token n false false with
    | .word w => pure (.inl (w.word :: soFar))
    | .newline => pure (.inr soFar.reverse)
    | t => if isOperator ";" t then pure (.inr soFar.reverse) else unexpected t none) []

/-- A loop over words, from behind its reserved word. -/
def each (n : Nested) (line : Nat) : Reader Command := do
  match ← token n false false with
  | .word w =>
    match (bareText? w).filter isName with
    | none => fail "Syntax error: Bad for loop variable"
    | some name =>
      let t ← token n true true
      let words ←
        if isReserved "in" t then eachWords n
        else
          if !isOperator ";" t then push t
          pure [[.parameter ['@'] .plain [] true]]
      demand n true "do"
      return .each line name words (← block n)
  | _ => fail "Syntax error: Bad for loop variable"

/-- The word that a token of a pattern writes. -/
def patternWord : Token → Word
  | .word w => w.word
  | .reserved t => [.literal t false]
  | _ => []

/-- The patterns of an arm from the first on, up to the parenthesis behind them. -/
def patterns (n : Nested) (first : Token) : Reader (List Word) :=
  loop (fun (s : List Word × Token) => do
    let soFar := patternWord s.2 :: s.1
    let t ← token n false false
    if isOperator "|" t then return .inl (soFar, ← token n false false)
    else if isOperator ")" t then return .inr soFar.reverse
    else unexpected t (some "\")\"")) ([], first)

/-- A choice, from behind its reserved word. -/
def choice (n : Nested) (line : Nat) : Reader Command := do
  match ← token n false false with
  | .word subject =>
    demand n true "in"
    loop (fun (arms : List (List Word × Option Command)) => do
      let t ← token n true true
      if isReserved "esac" t then
        return .inr (.choice line subject.word arms.reverse)
      else
        let first ← if isOperator "(" t then token n false false else pure t
        let words ← patterns n first
        let body ← n.commands .optional
        let arms := (words, body) :: arms
        let t ← token n true true
        if isReserved "esac" t then return .inr (.choice line subject.word arms.reverse)
        else if isOperator ";;" t then return .inl arms
        else unexpected t (some "\";;\"")) []
  | t => unexpected t (some "word")

/-- The construct that a token begins. -/
def construct? (n : Nested) (line : Nat) (t : Token) : Option (Reader Command) :=
  match t with
  | .reserved name =>
    match String.ofList name with
    | "if" => some do
      let c ← branches n ((← get).rest.length + 1)
      demand n false "fi"
      return c
    | "while" => some (repetition true)
    | "until" => some (repetition false)
    | "for" => some do
      let c ← each n line
      demand n false "done"
      return c
    | "case" => some (choice n line)
    | "\x7b" => some do
      let c ← block n
      demand n false "\x7d"
      return c
    | _ => none
  | t =>
    if isOperator "(" t then some do
      let c ← block n
      let t ← token n false true
      if isOperator ")" t then return .subshell line c []
      else unexpected t (some "\")\"")
    else none
where
  repetition (onSuccess : Bool) : Reader Command := do
    let condition ← block n
    demand n false "do"
    let body ← block n
    demand n false "done"
    return .loop onSuccess condition body

/-- The construct with the redirections behind it. -/
def withRedirections (line : Nat) (c : Command) (rs : List Redirection) : Command :=
  match c, rs with
  | c, [] => c
  | .subshell l body _, rs => .subshell l body rs
  | c, rs => .redirected line c rs

/-- One command. -/
def command (n : Nested) : Nat → Reader Command
  | 0 => fail "Syntax error: too deep"
  | fuel + 1 => do
    let line := (← get).line
    let t ← firstToken n false
    match construct? n line t with
    | some construct =>
      let c ← construct
      return withRedirections line c (← redirections n)
    | none =>
      match t with
      | .word _ | .redirection .. =>
        push t
        simple n (command n fuel)
      | t => unexpected t none

/-! ### Sequences -/

/-- How many definitions may follow each other directly, each the body of the last. -/
def definitionDepth : Nat := 100

/-- Commands joined by pipes, perhaps negated. The first token is at hand. -/
def pipeline (n : Nested) (skipsBreaks : Bool) : Reader Command := do
  let t ← firstToken n skipsBreaks
  let isNegated := isReserved "!" t
  if !isNegated then push t
  let first ← command n definitionDepth
  let c ← loop (fun (soFar : List Command) => do
    let t ← token n false false
    if isOperator "|" t then
      push (← firstToken n true)
      return .inl ((← command n definitionDepth) :: soFar)
    else
      push t
      match soFar with
      | [c] => return .inr c
      | cs => return .inr (.pipeline cs.reverse)) [first]
  return if isNegated then .negation c else c

/-- Pipelines joined by conditions. -/
def conditions (n : Nested) : Reader Command := do
  let first ← pipeline n false
  loop (fun (c : Command) => do
    let t ← token n false false
    if isOperator "&&" t then return .inl (.conditional true c (← pipeline n true))
    else if isOperator "||" t then return .inl (.conditional false c (← pipeline n true))
    else
      push t
      return .inr c) first

/-- Whether a token ends the commands that a construct contains. -/
def closesBlock (t : Token) : Bool :=
  ["do", "done", "elif", "else", "esac", "fi", "then", "\x7d"].any (isReserved · t) ||
    isOperator ")" t || isOperator ";;" t

/-- The commands so far with one more. -/
def andThen (before : Option Command) (c : Command) : Command :=
  match before with
  | some b => .sequence b c
  | none => c

/-- Commands up to the end of the scope. The token that ends them is not used up. -/
def commands (n : Nested) (scope : Scope) : Reader (Option Command) :=
  loop (fun (s : Option Command × Bool) => do
    let (before, isFirst) := s
    let finish : Reader ((Option Command × Bool) ⊕ Option Command) := do
      documents n
      push .ending
      pure (.inr before)
    let t ← firstToken n (scope ≠ .line)
    match t with
    | .newline =>
      documents n
      pure (.inr before)
    | .ending => finish
    | t =>
      push t
      if (scope = .optional || (scope = .block && !isFirst)) && closesBlock t then
        pure (.inr before)
      else
        let c ← conditions n
        let t ← token n false false
        let c := andThen before (if isOperator "&" t then .background c else c)
        match t with
        | .ending =>
          documents n
          push .ending
          pure (.inr (some c))
        | .newline =>
          push .newline
          pure (.inl (some c, false))
        | t =>
          if isOperator "&" t || isOperator ";" t then pure (.inl (some c, false))
          else if scope = .line then unexpected t none
          else
            push t
            pure (.inr (some c))) (none, true)

/-! ### Scripts -/

/-- The readers for constructs that are nested at most so deep. -/
def nested : Nat → Nested
  | 0 => ⟨fun _ => fail "Syntax error: too deep", fun _ => fail "Syntax error: too deep"⟩
  | depth + 1 =>
    let n := nested depth
    ⟨commands n, braced n⟩

/-- How deep constructs may be nested. -/
def nestingDepth : Nat := 500

/-- What a reader finds on the next line: commands, if there are any, and whether the
script goes on. -/
structure Line where
  command : Option Command
  isLast : Bool
  cursor : Cursor

/-- Reads the next line of commands. -/
def line (k : Cursor) : Except SyntaxError Line :=
  match ((nested nestingDepth).commands .line).run { k with pushed := none } with
  | .error e => .error e
  | .ok (command, k) =>
    let isLast := match k.pushed with
      | some .ending => true
      | _ => false
    .ok ⟨command, isLast, k⟩

end StyleSnapshot.Shell.Reader
