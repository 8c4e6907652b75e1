import StyleSnapshot.Shell.Tool.Sed.Script

/-! Replacing what an expression matches.

Matches are found one behind the other; an empty one directly behind another one does not
count. A replacement is put together piece by piece, with changes of case that hold for the
next piece or until another one. -/
namespace StyleSnapshot.Shell.Tool.Sed

/-! ### Replacements -/

/-- A text in the making: its characters backwards, and the changes of case for what is to
come. -/
structure CasedText where
  reversed : Octets := []
  all : Option CaseChange := none
  one : Option CaseChange := none
  /-- Whether the change for one character has passed an empty group, which it does once. -/
  hasPassed : Bool := false

namespace CasedText

def add (d : CasedText) : Octets → CasedText
  | [] =>
    match d.one, d.hasPassed with
    | some _, false => { d with hasPassed := true }
    | _, _ => { d with one := none }
  | c :: rest =>
    let cased (c : Char) : Char :=
      match d.all with
      | some .upper => Octets.toUpper c
      | some .lower => Octets.toLower c
      | _ => c
    let first := match d.one with
      | some .upperNext => Octets.toUpper c
      | some .lowerNext => Octets.toLower c
      | _ => cased c
    { d with reversed := (rest.map cased).reverse ++ first :: d.reversed, one := none }

def change (d : CasedText) (c : CaseChange) : CasedText :=
  match c with
  | .upper | .lower => { d with all := some c, one := none }
  | .upperNext | .lowerNext => { d with one := some c, hasPassed := false }
  | .off => { d with all := none, one := none }

/-- Adds what a replacement gives for a match. -/
def expand (subject : Regex.Subject) (start : Nat) (p : Regex.Match) (d : CasedText) :
    Replacement → CasedText
  | .text t => d.add t
  | .group 0 => d.add (subject.slice start p.position)
  | .group n =>
    match p.groups.lookup n with
    | some (first, behind) => d.add (subject.slice first behind)
    | none => d.add []
  | .case c => d.change c

end CasedText

/-- What replaces a match from a start up to where it has come. -/
def Substitution.expand (s : Substitution) (subject : Regex.Subject) (start : Nat)
    (p : Regex.Match) : Octets :=
  (s.replacement.foldl (CasedText.expand subject start p) {}).reversed.reverse

/-- Whether a match is replaced, given how many there are up to it. -/
def Substitution.concerns (s : Substitution) (count : Nat) : Bool :=
  let n := s.number.getD 1
  if s.isGlobal then n ≤ count else n = count

/-! ### Matches -/

/-- The text from a place on with matches replaced, and how many there were up to the last
one of interest. -/
def replaceFrom (s : Substitution) (r : Matcher) (subject : Regex.Subject) :
    Nat → (start count : Nat) → (behind : Option Nat) → Octets × Nat
  | 0, start, count, _ => (subject.slice start subject.text.size, count)
  | fuel + 1, start, count, behind =>
    let size := subject.text.size
    /- Goes on behind an empty match, which the next character is passed with. -/
    let pass (first count : Nat) (before : Octets) : Octets × Nat :=
      if size ≤ first then (before, count)
      else
        let (rest, total) := replaceFrom s r subject fuel (first + 1) count none
        (before ++ subject.slice first (first + 1) ++ rest, total)
    match r.matchFrom? subject start with
    | none => (subject.slice start size, count)
    | some (first, p) =>
      let before := subject.slice start first
      if p.position = first && behind = some first then pass first count before
      else
        let count := count + 1
        let isReplaced := s.concerns count
        let done := before ++
          if isReplaced then s.expand subject first p else subject.slice first p.position
        if isReplaced && !s.isGlobal then (done ++ subject.slice p.position size, count)
        else if p.position = first then pass first count done
        else
          let (rest, total) := replaceFrom s r subject fuel p.position count (some p.position)
          (done ++ rest, total)

/-- The text with matches replaced; none if no match is. -/
def Substitution.apply? (s : Substitution) (r : Matcher) (subject : Regex.Subject) :
    Option Octets :=
  let (t, count) := replaceFrom s r subject (2 * subject.text.size + 3) 0 0 none
  if s.number.getD 1 ≤ count then some t else none

end StyleSnapshot.Shell.Tool.Sed
