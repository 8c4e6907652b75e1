import StyleSnapshot.Shell.Tool.Regex.Basic

/-! Matches of expressions that refer back.

What such an expression matches depends on what its groups stand for, so all ways to match
are gone through, the preferred ones first. -/
namespace StyleSnapshot.Shell.Tool.Regex

/-- The match behind one character that a test holds for. -/
def Subject.one (s : Subject) (p : Match) (x : Single) : List Match :=
  match s.text[p.position]? with
  | some c => if s.accepts x c then [{ p with position := p.position + 1 }] else []
  | none => []

/-- Repeats a step; more rounds come first. A round that makes no progress ends it. -/
def rounds (step : Match → List Match) (least : Nat) (most : Option Nat) :
    Nat → (count : Nat) → Match → List Match
  | 0, _, p => [p]
  | fuel + 1, count, p =>
    let further :=
      if most.any (· ≤ count) then []
      else
        ((step p).filter fun q => q.position ≠ p.position || count < least).flatMap
          (rounds step least most fuel (count + 1))
    if least ≤ count then further ++ [p] else further

/-- The matches that go on from one, the preferred ones first. -/
def further (s : Subject) : Regex → Match → List Match
  | .nothing, p => [p]
  | .single x, p => s.one p x
  | .edge e, p => if s.isAt e p.position then [p] else []
  | .group n r, p =>
    (further s r p).map fun q =>
      { q with groups := (n, p.position, q.position) :: q.groups.filter (·.1 ≠ n) }
  | .again n, p =>
    match p.groups.lookup n with
    | none => []
    | some (first, last) =>
      let wanted := (s.slice first last).map s.folded
      let found := (s.slice p.position (p.position + wanted.length)).map s.folded
      if found = wanted then [{ p with position := p.position + wanted.length }] else []
  | .both a b, p => ((further s a p).flatMap (further s b)).eraseDups
  | .either a b, p => further s a p ++ further s b p
  | .repetition r least most, p =>
    (rounds (further s r) least most (s.text.size + least + 1) 0 p).eraseDups

/-- The longest of several matches; of two equal ones the first. -/
def longest? : List Match → Option Match
  | [] => none
  | p :: more =>
    match longest? more with
    | some q => if p.position < q.position then some q else some p
    | none => some p

end StyleSnapshot.Shell.Tool.Regex
