import StyleSnapshot.Shell.Tool.Regex.Backtracking
import StyleSnapshot.Shell.Tool.Regex.Graph

/-! Matching expressions.

Of all matches the leftmost counts, and of these the longest. -/
namespace StyleSnapshot.Shell.Tool

/-- An expression ready to be looked for. -/
structure Matcher where
  regex : Regex
  refersBack : Bool
  mostGroup : Nat
  graph : Regex.Graph
  firsts? : Option (List Regex.Single)

def Regex.matcher (r : Regex) : Matcher :=
  ⟨r, r.refersBack, r.mostGroup, r.graph, r.graph.firsts?⟩

namespace Matcher

/-- Whether a match can begin at a place, in view of its first character. -/
def canStart (m : Matcher) (s : Regex.Subject) (start : Nat) : Bool :=
  match m.firsts? with
  | none => true
  | some xs => s.text[start]?.any fun c => xs.any (s.accepts · c)

/-- Where matches end that begin at a place. -/
def ends (m : Matcher) (s : Regex.Subject) (start : Nat) : List Nat :=
  if m.refersBack then (Regex.further s m.regex ⟨start, []⟩).map (·.position)
  else if m.canStart s start then m.graph.ends s start
  else []

/-- The match at a place. -/
def matchAt? (m : Matcher) (s : Regex.Subject) (start : Nat) : Option Regex.Match :=
  if m.refersBack then Regex.longest? (Regex.further s m.regex ⟨start, []⟩)
  else
    (m.ends s start).getLast?.map fun last =>
      if m.mostGroup = 0 then ⟨last, []⟩
      else
        let groups := m.graph.groups s m.mostGroup start last
        let inner := (Regex.merged m.regex).filterMap fun (n, outer) =>
          (groups.lookup outer).map fun place => (n, place)
        ⟨last, groups ++ inner⟩

/-- The first match at one of so many places from one on, and where it begins. -/
def matchWithin? (m : Matcher) (s : Regex.Subject) :
    Nat → (start : Nat) → Option (Nat × Regex.Match)
  | 0, _ => none
  | count + 1, start =>
    match m.matchAt? s start with
    | some p => some (start, p)
    | none => matchWithin? m s count (start + 1)

/-- The first match at a place or behind it, and where it begins. -/
def matchFrom? (m : Matcher) (s : Regex.Subject) (start : Nat) : Option (Nat × Regex.Match) :=
  m.matchWithin? s (s.text.size + 1 - start) start

end Matcher
end StyleSnapshot.Shell.Tool
