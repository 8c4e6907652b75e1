import StyleSnapshot.Shell.Reader.Basic

/-! Reading words.

A word ends at a blank, a line break or an operator that is not quoted. A backslash quotes
one character, single quotes all up to the next one, and double quotes all but
substitutions. A substitution begins with a dollar sign or a backtick. -/
namespace StyleSnapshot.Shell.Reader

/-! ### Words in the making -/

/-- The parts of a word so far and the literal text behind them, the last first. -/
structure Draft where
  parts : List Part := []
  text : Octets := []
  isQuoted : Bool := false

namespace Draft

/-- The parts of the draft, the last first. -/
def closed (d : Draft) : List Part :=
  if d.text = [] then d.parts else .literal d.text.reverse d.isQuoted :: d.parts

def addPart (d : Draft) (p : Part) : Draft := { parts := p :: d.closed }

def add (d : Draft) (c : Char) (isQuoted : Bool) : Draft :=
  if d.text ≠ [] && d.isQuoted = isQuoted then { d with text := c :: d.text }
  else { parts := d.closed, text := [c], isQuoted := isQuoted }

def word (d : Draft) : Word := d.closed.reverse

end Draft

/-! ### Substitutions -/

def isQuoting (q : Quoting) : Bool := q ≠ .none

/-- Reads the name in braces behind its first character, and what follows the name. -/
def nameFrom (accepts : Char → Bool) (c : Char) : Reader (Octets × Option Char) :=
  loop (fun (soFar : Octets) => do
    match ← next with
    | some d => if accepts d then pure (.inl (d :: soFar)) else pure (.inr (soFar.reverse, some d))
    | none => pure (.inr (soFar.reverse, none))) [c]

def unread? (c : Option Char) : Reader Unit :=
  match c with
  | some c => unread c
  | none => pure ()

/-- The adjustment that a sign announces. -/
def adjustment? (emptyIsMissing : Bool) (c : Char) : Option Adjustment :=
  if c = '-' then some (.fallback emptyIsMissing)
  else if c = '=' then some (.assign emptyIsMissing)
  else if c = '?' then some (.demand emptyIsMissing)
  else if c = '+' then some (.alternative emptyIsMissing)
  else none

/-- The rest of a substitution in braces behind the name of its parameter. -/
def adjusted (n : Nested) (q : Quoting) (name : Octets) (c : Option Char) : Reader Part := do
  let rest (a : Adjustment) (q' : Quoting) : Reader Part := do
    return .parameter name a (← n.braced q') (isQuoting q)
  let sign (emptyIsMissing : Bool) (c : Option Char) : Reader Part :=
    match c.bind (adjustment? emptyIsMissing) with
    | some a => rest a q
    | none => rest .malformed q
  match c with
  | some '\x7d' => return .parameter name .plain [] (isQuoting q)
  | some ':' => sign true (← next)
  | some '%' =>
    match ← next with
    | some '%' => rest (.trim true true) .none
    | d => unread? d; rest (.trim true false) .none
  | some '#' =>
    match ← next with
    | some '#' => rest (.trim false true) .none
    | d => unread? d; rest (.trim false false) .none
  | c => sign false c

/-- The rest of a substitution that asks for a length. -/
def lengthOf (n : Nested) (q : Quoting) (name : Octets) (c : Option Char) : Reader Part := do
  if c = some '\x7d' then return .parameter name .length [] (isQuoting q)
  else
    unread? c
    return .parameter name .malformed (← n.braced q) (isQuoting q)

/-- A name of letters or digits that begins with a character. -/
def plainName? (c : Char) : Option (Char → Bool) :=
  if isNameStart c then some isNameChar else if c.isDigit then some Char.isDigit else none

/-- A substitution in braces, from behind the opening brace. -/
def inBraces (n : Nested) (q : Quoting) : Reader Part := do
  match ← next with
  | none => return .parameter [] .malformed (← n.braced q) (isQuoting q)
  | some '\x7d' =>
    unread '\x7d'
    return .parameter [] .malformed (← n.braced q) (isQuoting q)
  | some '#' =>
    let d ← next
    match d.bind fun d => (plainName? d).map fun accepts => (d, accepts) with
    | some (d, accepts) =>
      let (name, behind) ← nameFrom accepts d
      lengthOf n q name behind
    | none =>
      let e ← next
      if d ≠ some '\x7d' && e = some '\x7d' && d.any isSpecial then
        lengthOf n q d.toList e
      else
        unread? e
        adjusted n q ['#'] d
  | some c =>
    match plainName? c with
    | some accepts =>
      let (name, behind) ← nameFrom accepts c
      adjusted n q name behind
    | none =>
      if isSpecial c then adjusted n q [c] (← next)
      else return .parameter [] .malformed (← n.braced q) (isQuoting q)

/-- The text up to the closing backtick. A backslash quotes a backtick, a dollar sign and
a backslash, and inside double quotes also a double quote. -/
def backtickText (q : Quoting) : Reader Octets :=
  loop (fun (soFar : Octets) => do
    match ← next with
    | none => fail "Syntax error: EOF in backquote substitution"
    | some '\x60' => pure (.inr soFar.reverse)
    | some '\\' =>
      match ← raw with
      | none => pure (.inl ('\\' :: soFar))
      | some d =>
        if d = '\\' || d = '\x60' || d = '$' || (isQuoting q && d = '"') then
          pure (.inl (d :: soFar))
        else pure (.inl (d :: '\\' :: soFar))
    | some c => pure (.inl (c :: soFar))) []

/-- Reads nested commands. Documents that are announced among them and have not followed
by their end are empty. -/
def apart (r : Reader β) : Reader β := do
  let saved := (← get).announced
  modify fun k => { k with announced := [] }
  let b ← r
  modify fun k =>
    { k with
      announced := saved
      documents := k.announced.map (fun a => (a.number, [])) ++ k.documents
      pushed := none }
  pure b

/-- The commands between backticks. -/
def backticks (n : Nested) (q : Quoting) : Reader Part := do
  let text ← backtickText q
  let behind ← get
  set { behind with rest := text, line := behind.outer }
  let commands ← apart (n.commands .optional)
  modify fun k => { k with rest := behind.rest, line := behind.line }
  return .output commands (isQuoting q)

/-- The rest of an expression, from behind two parentheses. -/
def expression (n : Nested) (dollar : Quoting → Reader (Option Part)) (isQuoted : Bool) :
    Reader Part :=
  loop (fun (s : Draft × Nat) => do
    let (d, depth) := s
    let more (c : Char) : Reader ((Draft × Nat) ⊕ Part) := pure (.inl (d.add c true, depth))
    match ← next with
    | none => fail "Syntax error: Missing '))'"
    | some '(' => pure (.inl (d.add '(' true, depth + 1))
    | some ')' =>
      if depth ≠ 0 then pure (.inl (d.add ')' true, depth - 1))
      else
        match ← next with
        | some ')' => pure (.inr (.value d.word isQuoted))
        | e => unread? e; more ')'
    | some '\\' =>
      match ← raw with
      | none => more '\\'
      | some e =>
        if e = '\\' || e = '\x60' || e = '$' || e = '"' then more e
        else pure (.inl ((d.add '\\' true).add e true, depth))
    | some '$' =>
      match ← dollar .double with
      | some p => pure (.inl (d.addPart p, depth))
      | none => more '$'
    | some '\x60' => return .inl (d.addPart (← backticks n .double), depth)
    | some c => more c) ({}, 0)

/-- A substitution from behind its dollar sign, if it is one. -/
def dollar (n : Nested) : Nat → Quoting → Reader (Option Part)
  | 0, _ => fail "Syntax error: too deep"
  | fuel + 1, q => do
    match ← next with
    | none => pure none
    | some '(' =>
      match ← next with
      | some '(' => some <$> expression n (dollar n fuel) (isQuoting q)
      | e =>
        unread? e
        let commands ← apart do
          let commands ← n.commands .optional
          match (← get).pushed with
          | some (.operator [')']) => pure commands
          | some t =>
            throw ⟨(← get).line, "Syntax error: ".toList ++ t.description ++
              " unexpected (expecting \")\")".toList⟩
          | none => fail "Syntax error: end of file unexpected (expecting \")\")"
        return some (.output commands (isQuoting q))
    | some '\x7b' => some <$> inBraces n q
    | some c =>
      if isNameStart c then
        let (name, behind) ← nameFrom isNameChar c
        unread? behind
        return some (.parameter name .plain [] (isQuoting q))
      else if c.isDigit || isSpecial c then
        return some (.parameter [c] .plain [] (isQuoting q))
      else
        unread c
        pure none

/-- How deep expressions may be nested in each other. -/
def expressionDepth : Nat := 100

/-- Adds a substitution to a draft, or the dollar sign if it begins none. -/
def addDollar (n : Nested) (q : Quoting) (d : Draft) : Reader Draft := do
  match ← dollar n expressionDepth q with
  | some p => pure (d.addPart p)
  | none => pure (d.add '$' (isQuoting q))

/-! ### Quotes -/

/-- The text up to the closing single quote. -/
def singleQuoted : Reader Octets :=
  loop (fun (soFar : Octets) => do
    match ← raw with
    | none => fail "Syntax error: Unterminated quoted string"
    | some '\'' => pure (.inr soFar.reverse)
    | some c => pure (.inl (c :: soFar))) []

/-- Adds a character behind a backslash that stands inside double quotes. -/
def addEscaped (isEscapable : Char → Bool) (d : Draft) : Reader Draft := do
  match ← raw with
  | none => pure (d.add '\\' true)
  | some c => if isEscapable c then pure (d.add c true) else pure ((d.add '\\' true).add c true)

def isEscapable (c : Char) : Bool := c = '\\' || c = '\x60' || c = '$'

/-- Adds what stands between double quotes, from behind the first. -/
def doubleQuoted (n : Nested) (d : Draft) : Reader Draft :=
  loop (fun (s : Draft × Bool) => do
    let (d, isEmpty) := s
    match ← next with
    | none => fail "Syntax error: Unterminated quoted string"
    | some '"' => pure (.inr (if isEmpty then d.addPart (.literal [] true) else d))
    | some '\\' => return .inl (← addEscaped (fun c => isEscapable c || c = '"') d, false)
    | some '$' => return .inl (← addDollar n .double d, false)
    | some '\x60' => return .inl (d.addPart (← backticks n .double), false)
    | some c => pure (.inl (d.add c true, false))) (d, true)

/-- Adds a character, or what it begins, where nothing is quoted. -/
def addUnquoted (n : Nested) (c : Char) (d : Draft) : Reader Draft := do
  if c = '\\' then
    match ← raw with
    | none => pure (d.add '\\' true)
    | some e => pure (d.add e true)
  else if c = '\'' then return d.addPart (.literal (← singleQuoted) true)
  else if c = '"' then doubleQuoted n d
  else if c = '$' then addDollar n .none d
  else if c = '\x60' then return d.addPart (← backticks n .none)
  else pure (d.add c false)

/-- Whether a character quotes where nothing is quoted. -/
def isQuote (c : Char) : Bool := c = '\\' || c = '\'' || c = '"'

/-- The word in a substitution where nothing is quoted, up to the closing brace. -/
def bracedPlain (n : Nested) : Reader Word :=
  loop (fun (d : Draft) => do
    match ← next with
    | none => fail "Syntax error: Missing '\x7d'"
    | some '\x7d' => pure (.inr d.word)
    | some c => .inl <$> addUnquoted n c d) {}

/-- The word in a substitution inside double quotes, up to the closing brace. Further
double quotes hide closing braces between them. -/
def bracedQuoted (n : Nested) (q : Quoting) : Reader Word :=
  loop (fun (s : Draft × Bool) => do
    let (d, isHidden) := s
    match ← next with
    | none =>
      if q = .document then fail "Syntax error: Missing '\x7d'"
      else fail "Syntax error: Unterminated quoted string"
    | some '\x7d' =>
      if isHidden then pure (.inl (d.add '\x7d' true, isHidden)) else pure (.inr d.word)
    | some '"' => pure (.inl (d, !isHidden))
    | some '\\' =>
      return .inl (← addEscaped
        (fun c => isEscapable c || c = '"' || (c = '\x7d' && !isHidden)) d, isHidden)
    | some '$' => return .inl (← addDollar n q d, isHidden)
    | some '\x60' => return .inl (d.addPart (← backticks n q), isHidden)
    | some c => pure (.inl (d.add c true, isHidden))) ({}, false)

/-- The word in a substitution up to its closing brace. -/
def braced (n : Nested) : Quoting → Reader Word
  | .none => bracedPlain n
  | q => bracedQuoted n q

/-! ### Words -/

/-- Whether a character ends a word where nothing is quoted. -/
def endsWord (c : Char) : Bool :=
  c = ' ' || c = '\t' || c = '\n' || c = ';' || c = '&' || c = '|' || c = '<' || c = '>' ||
    c = '(' || c = ')'

/-- A word that begins here. In the marker of a document a dollar sign is literal. -/
def word (n : Nested) (isMarker : Bool) : Reader Written :=
  loop (fun (s : Draft × Bool) => do
    let (d, isQuoted) := s
    match ← next with
    | none => pure (.inr ⟨d.word, isQuoted⟩)
    | some c =>
      if endsWord c then
        unread c
        pure (.inr ⟨d.word, isQuoted⟩)
      else if isMarker && c = '$' then pure (.inl (d.add c false, isQuoted))
      else return .inl (← addUnquoted n c d, isQuoted || isQuote c)) ({}, false)

/-! ### Documents -/

/-- What is left of the text when the line that ends a document stands here. -/
def afterMarker? (marker : Octets) (t : Octets) : Option Octets :=
  match Text.after? marker t with
  | some [] => some []
  | some ('\n' :: rest) => some rest
  | some _ | none => none

/-- The text of a document, from the beginning of its first line. -/
def document (n : Nested) (a : Announcement) : Reader Word :=
  loop (fun (s : Draft × Bool) => do
    let (d, isLineStart) := s
    if isLineStart && a.isIndented then
      modify fun k => { k with rest := k.rest.dropWhile (· = '\t') }
    let k ← get
    match if isLineStart then afterMarker? a.marker k.rest else none with
    | some rest =>
      modify fun k => { k with rest := rest, line := k.line + 1 }
      pure (.inr d.word)
    | none =>
      match ← if a.isQuoted then raw else next with
      | none => pure (.inr d.word)
      | some c =>
        if a.isQuoted then pure (.inl (d.add c true, c = '\n'))
        else if c = '\\' then return .inl (← addEscaped isEscapable d, false)
        else if c = '$' then return .inl (← addDollar n .document d, false)
        else if c = '\x60' then return .inl (d.addPart (← backticks n .document), false)
        else pure (.inl (d.add c true, c = '\n'))) ({}, true)

/-- Reads the documents that have been announced. -/
def documents (n : Nested) : Reader Unit := do
  let announced := (← get).announced
  modify fun k => { k with announced := [] }
  for a in announced do
    let body ← document n a
    modify fun k => { k with documents := (a.number, body) :: k.documents }

end StyleSnapshot.Shell.Reader
