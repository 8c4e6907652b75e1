import StyleSnapshot.Text.Basic

/-! Glob patterns on names.

A question mark stands for one character and a star for any run of characters, slashes
included. Two stars must make up a whole path component; they stand for any run of whole
components, or for everything when nothing follows. A class in brackets lists characters
and ranges, negated by a leading exclamation mark; its first character is a member even
if it is a closing bracket. Everything else stands for itself. -/
namespace StyleSnapshot.Glob

/-- Why a text is no pattern. -/
inductive PatternError where
  /-- Three stars or more in a row. -/
  | starRun
  /-- Two stars that share their path component. -/
  | partialComponent
  /-- A bracket that opens no class. -/
  | badClass
  deriving DecidableEq, Repr

def PatternError.message : PatternError → Text
  | .starRun => "wildcards are either regular \x60*\x60 or recursive \x60**\x60".toList
  | .partialComponent => "recursive wildcards must form a single path component".toList
  | .badClass => "invalid range pattern".toList

/-- A member of a class. -/
inductive ClassItem where
  | single (c : Char)
  /-- All characters from the first to the last; none when they are reversed. -/
  | range (first last : Char)
  deriving DecidableEq, Repr

def ClassItem.holds (c : Char) : ClassItem → Bool
  | .single d => c = d
  | .range first last => first ≤ c && c ≤ last

inductive Token where
  | char (c : Char)
  | anyChar
  /-- Any run of characters. -/
  | anyRun
  /-- Any run of whole path components. -/
  | anyComponents
  | within (items : List ClassItem)
  | except (items : List ClassItem)
  deriving DecidableEq, Repr

/-- A pattern together with the text it was written as. -/
structure Pattern where
  source : Text
  tokens : List Token
  deriving DecidableEq, Repr

/-! ### Reading a pattern -/

def classItems : Text → List ClassItem
  | [] => []
  | [a] => [.single a]
  | [a, b] => [.single a, .single b]
  | a :: b :: c :: rest =>
    if b = '-' then .range a c :: classItems rest else .single a :: classItems (b :: c :: rest)

/-- A class whose inside begins with `first`, and what follows it. -/
def classFrom (token : List ClassItem → Token) (first : Char) (t : Text) :
    Except PatternError (Token × Text) :=
  match t.dropWhile (· ≠ ']') with
  | [] => .error .badClass
  | _ :: rest => .ok (token (classItems (first :: t.takeWhile (· ≠ ']'))), rest)

/-- The class behind an opening bracket. -/
def readClass : Text → Except PatternError (Token × Text)
  | '!' :: first :: rest => classFrom .except first rest
  | ['!'] => .error .badClass
  | first :: rest => classFrom .within first rest
  | [] => .error .badClass

/-- What a run of stars stands for, given the character before it and the text behind. -/
def readStars (before : Option Char) (count : Nat) (behind : Text) :
    Except PatternError (Token × Text) :=
  if count = 1 then .ok (.anyRun, behind)
  else if count = 2 then
    if before.all (· = '/') then
      match behind with
      | [] => .ok (.anyComponents, [])
      | '/' :: rest => .ok (.anyComponents, rest)
      | _ => .error .partialComponent
    else .error .partialComponent
  else .error .starRun

/-- The token that begins with `c`, given what stands before and behind it. -/
def readToken (before : Option Char) (c : Char) (rest : Text) :
    Except PatternError (Token × Text) :=
  if c = '?' then .ok (.anyChar, rest)
  else if c = '*' then
    readStars before ((rest.takeWhile (· = '*')).length + 1) (rest.dropWhile (· = '*'))
  else if c = '[' then readClass rest
  else .ok (.char c, rest)

theorem classFrom_length {token : List ClassItem → Token} {first : Char} {t rest : Text}
    {k : Token} (h : classFrom token first t = .ok (k, rest)) : rest.length ≤ t.length := by
  simp only [classFrom] at h
  have h1 := Text.length_dropWhile_le (fun c => decide (c ≠ ']')) t
  split at h
  · cases h
  · next hd =>
    cases h
    rw [hd] at h1
    simp only [List.length_cons] at h1
    omega

theorem readToken_length {before : Option Char} {c : Char} {t rest : Text} {k : Token}
    (h : readToken before c t = .ok (k, rest)) : rest.length ≤ t.length := by
  simp only [readToken] at h
  split at h
  · cases h
    exact Nat.le_refl _
  · split at h
    · have h1 := Text.length_dropWhile_le (fun c => decide (c = '*')) t
      simp only [readStars] at h
      split at h
      · cases h
        exact h1
      · split at h
        · split at h
          · split at h
            · cases h
              simp
            · next hd =>
              cases h
              rw [hd] at h1
              simp only [List.length_cons] at h1
              omega
            · cases h
          · cases h
        · cases h
    · split at h
      · simp only [readClass] at h
        split at h
        · have := classFrom_length h
          simp only [List.length_cons]
          omega
        · cases h
        · have := classFrom_length h
          simp only [List.length_cons]
          omega
        · cases h
      · cases h
        exact Nat.le_refl _

/-- Adds a token to those read so far, the last of them first. A run of components
directly behind another one adds nothing, except at the very beginning. -/
def push (token : Token) (soFar : List Token) : List Token :=
  if token = .anyComponents ∧ soFar.head? = some .anyComponents ∧ 1 < soFar.length then soFar
  else token :: soFar

/-- The character in front of `rest`, which is what is left of `c :: t`. -/
def lastRead (c : Char) (t rest : Text) : Option Char :=
  (c :: t)[t.length - rest.length]?

def readTokens (before : Option Char) (soFar : List Token) :
    Text → Except PatternError (List Token)
  | [] => .ok soFar.reverse
  | c :: t =>
    match _h : readToken before c t with
    | .error e => .error e
    | .ok (token, rest) => readTokens (lastRead c t rest) (push token soFar) rest
termination_by t => t.length
decreasing_by
  have := readToken_length _h
  simp only [List.length_cons]
  omega

/-- Reads a pattern. -/
def parse (source : Text) : Except PatternError Pattern :=
  (readTokens none [] source).map fun tokens => ⟨source, tokens⟩

/-! ### Matching -/

/-- How an attempt to match some tokens at one place ends. -/
inductive Attempt where
  | found
  /-- Another place further on may do. -/
  | failed
  /-- The text ran out, so no place further on can do. -/
  | exhausted
  deriving DecidableEq, Repr

/-- Attempts at this place and at every later one. -/
def anywhere (attempt : Text → Attempt) : Text → Attempt
  | [] => attempt []
  | c :: rest =>
    match attempt (c :: rest) with
    | .failed => anywhere attempt rest
    | other => other

/-- Attempts behind every later slash and at the end. -/
def behindSlashes (attempt : Text → Attempt) : Text → Attempt
  | [] => attempt []
  | c :: rest =>
    if c = '/' then
      match attempt rest with
      | .failed => behindSlashes attempt rest
      | other => other
    else behindSlashes attempt rest

/-- Whether a token that stands for one character stands for `c`. -/
def Token.holds (c : Char) : Token → Bool
  | .char d => c = d
  | .anyChar => true
  | .within items => items.any (·.holds c)
  | .except items => !items.any (·.holds c)
  | .anyRun | .anyComponents => false

def attempt : List Token → Text → Attempt
  | [], t => if t = [] then .found else .failed
  | .anyRun :: more, t => anywhere (attempt more) t
  | .anyComponents :: more, t =>
    match attempt more t with
    | .failed => behindSlashes (attempt more) t
    | other => other
  | _ :: _, [] => .exhausted
  | token :: more, c :: rest => if token.holds c then attempt more rest else .failed

/-- Whether the pattern stands for the whole name. -/
def Pattern.matches (p : Pattern) (name : Text) : Bool := attempt p.tokens name = .found

end StyleSnapshot.Glob
