import StyleSnapshot.Shell.Octets

/-! Patterns of a script.

A star stands for any text, a question mark for one byte, and a class in brackets for one
of its members or, when it is negated, for one byte that is no member. What is quoted, or
stands behind a backslash, stands for itself. -/
namespace StyleSnapshot.Shell

/-- A text of bytes that knows of each byte whether it was quoted. -/
abbrev Marked := List (Char × Bool)

def Marked.ofOctets (isQuoted : Bool) (t : Octets) : Marked := t.map fun c => (c, isQuoted)

def Marked.text (t : Marked) : Octets := t.map (·.1)

namespace Pattern

/-- A member of a class. -/
inductive Member where
  | single (c : Char)
  | range (first last : Char)
  | named (name : Octets)
  deriving DecidableEq, Repr

def Member.holds (c : Char) : Member → Bool
  | .single d => c = d
  | .range first last => first ≤ c && c ≤ last
  | .named name => (Octets.inClass? name c).getD false

inductive Piece where
  | char (c : Char)
  | anyChar
  | anyText
  | member (isNegated : Bool) (members : List Member)
  deriving DecidableEq, Repr

/-- Whether a piece stands for a byte. -/
def Piece.accepts (c : Char) : Piece → Bool
  | .char d => c = d
  | .anyChar => true
  | .anyText => false
  | .member isNegated members => members.any (·.holds c) != isNegated

end Pattern

abbrev Pattern := List Pattern.Piece

namespace Pattern

/-! ### Reading -/

/-- The name of a class between colons, and the text behind it. -/
def className? (t : Marked) : Option (Octets × Marked) :=
  match t with
  | ('[', false) :: (':', false) :: rest =>
    let name := rest.takeWhile fun c => c.1.isAlpha
    match rest.drop name.length with
    | (':', _) :: (']', _) :: behind =>
      if (Octets.inClass? (Marked.text name) 'a').isSome then some (Marked.text name, behind)
      else none
    | _ => none
  | _ => none

/-- The members of a class up to its closing bracket, and the text behind it. -/
def members? : Nat → Bool → Marked → Option (List Member × Marked)
  | 0, _, _ => none
  | _, _, [] => none
  | fuel + 1, isFirst, c :: rest =>
    if c = (']', false) && !isFirst then some ([], rest)
    else
      match className? (c :: rest) with
      | some (name, behind) =>
        (members? fuel false behind).map fun r => (.named name :: r.1, r.2)
      | none =>
        let (c, rest) :=
          match c, rest with
          | ('\\', false), d :: rest => (d, rest)
          | c, rest => (c, rest)
        match rest with
        | ('-', false) :: (d, isQuoted) :: behind =>
          if d = ']' && !isQuoted then
            (members? fuel false rest).map fun r => (.single c.1 :: r.1, r.2)
          else (members? fuel false behind).map fun r => (.range c.1 d :: r.1, r.2)
        | rest => (members? fuel false rest).map fun r => (.single c.1 :: r.1, r.2)

/-- The class behind an opening bracket. -/
def class? (t : Marked) : Option (Piece × Marked) :=
  match t with
  | (c, false) :: rest =>
    if c = '!' || c = '^' then
      (members? t.length true rest).map fun r => (.member true r.1, r.2)
    else (members? (t.length + 1) true t).map fun r => (.member false r.1, r.2)
  | t => (members? (t.length + 1) true t).map fun r => (.member false r.1, r.2)

def ofMarkedFrom : Nat → Marked → Pattern
  | 0, _ => []
  | _, [] => []
  | fuel + 1, (c, isQuoted) :: rest =>
    if isQuoted then .char c :: ofMarkedFrom fuel rest
    else if c = '*' then .anyText :: ofMarkedFrom fuel rest
    else if c = '?' then .anyChar :: ofMarkedFrom fuel rest
    else if c = '[' then
      match class? rest with
      | some (piece, behind) => piece :: ofMarkedFrom fuel behind
      | none => .char c :: ofMarkedFrom fuel rest
    else if c = '\\' then
      match rest with
      | (d, _) :: behind => .char d :: ofMarkedFrom fuel behind
      | [] => [.char c]
    else .char c :: ofMarkedFrom fuel rest

/-- The pattern that a text writes. -/
def ofMarked (t : Marked) : Pattern := ofMarkedFrom t.length t

/-! ### Matching -/

/-- Whether the pattern stands for the whole text. -/
def holds : Pattern → Octets → Bool
  | [], t => t.isEmpty
  | .anyText :: ps, t => (List.range (t.length + 1)).any fun n => holds ps (t.drop n)
  | _ :: _, [] => false
  | p :: ps, c :: t => p.accepts c && holds ps t

/-- The text without the part at one end for which the pattern stands. -/
def trim (p : Pattern) (atEnd longest : Bool) (t : Octets) : Octets :=
  let counts := List.range (t.length + 1)
  let counts := if longest then counts.reverse else counts
  let found := counts.find? fun n => p.holds (if atEnd then t.drop (t.length - n) else t.take n)
  match found with
  | some n => if atEnd then t.take (t.length - n) else t.drop n
  | none => t

/-! ### Names of files -/

/-- Whether the text holds an active wildcard. -/
def isActive (t : Marked) : Bool :=
  t.any fun c => !c.2 && (c.1 = '*' || c.1 = '?' || c.1 = '[')

/-- What slashes separate. -/
def components (t : Marked) : List Marked := t.splitOnP fun c => c.1 = '/'

/-- Whether a name is hidden and the component does not ask for hidden names. -/
def isPassedBy (component : Marked) (name : Octets) : Bool :=
  name.head? = some '.' && (component.head?.map (·.1)) ≠ some '.'

/-- The paths that exist among those a pattern stands for. `names` lists a directory, and
`before` is the path up to the component at hand. -/
def paths (names : Octets → List Octets) (isThere : Octets → Bool) (before : Octets) :
    List Marked → List Octets
  | [] => []
  | component :: more =>
    let goOn (name : Octets) : List Octets :=
      match more with
      | [] => if isThere (before ++ name) then [before ++ name] else []
      | more => paths names isThere (before ++ name ++ ['/']) more
    if isActive component then
      let pattern := ofMarked component
      (names before).flatMap fun name =>
        if pattern.holds name && !isPassedBy component name then goOn name else []
    else goOn component.text

end Pattern
end StyleSnapshot.Shell
