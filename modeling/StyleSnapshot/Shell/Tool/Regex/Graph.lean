import StyleSnapshot.Shell.Tool.Regex.Basic

/-! Expressions as graphs.

A node asks for a character, says something of a place, or only leads on to other nodes. A
match is a way from the start of the graph to its end. Where ways end is found by going
along all of them at once. Of the ways with the longest match one is then followed that
tells what the groups stand for: at a fork it takes the first branch from which the end can
still be reached, unless it has been there without passing a character since. -/
namespace StyleSnapshot.Shell.Tool.Regex

inductive Node where
  | final
  | single (x : Single) (next : Nat)
  | edge (e : Edge) (next : Nat)
  | fork (first second : Nat)
  | enter (group next : Nat)
  /-- The end of a group; a group that may be left out keeps what it stands for when it matches
  nothing once more. -/
  | leave (group : Nat) (isOptional : Bool) (next : Nat)

/-- The nodes, of which the first is the end of all ways, and where ways start. -/
structure Graph where
  nodes : Array Node
  start : Nat

/-! ### Building graphs -/

abbrev Builder := StateM (Array Node)

/-- Adds a node. -/
def node (n : Node) : Builder Nat := modifyGet fun nodes => (nodes.size, nodes.push n)

/-- Whether there is nothing to match and no place to match it at. -/
def isNull : Regex → Bool
  | .nothing => true
  | .repetition r _ most => isNull r || most = some 0
  | .both a b => isNull a && isNull b
  | _ => false

/-- So many steps in front of a node. -/
def inFront (step : Nat → Builder Nat) : Nat → Nat → Builder Nat
  | 0, next => return next
  | count + 1, next => do inFront step count (← step next)

/-- A first step and at most so many further ones in front of a node, none of which has to be
taken. -/
def atMost (first further : Nat → Builder Nat) : Nat → Nat → Builder Nat
  | 0, next => do node (.fork (← first next) next)
  | count + 1, next => do
    let last ← further next
    node (.fork (← atMost first further count last) next)

/-- Any number of steps in front of a node. -/
def anyNumber (step : Nat → Builder Nat) (next : Nat) : Builder Nat := do
  let fork ← node (.fork next next)
  let first ← step fork
  modify fun nodes => nodes.set! fork (.fork first next)
  return fork

/-- The graph of an expression in front of a node. A branch of alternatives that is null comes
last of the two. A group directly inside another one is not entered by itself. What is repeated
stands there more than once: only in the first place are groups marked that may be left out,
and of the others only the one whose repetition it is. -/
def build : Regex → (isOptional isCopy : Bool) → (next : Nat) → Builder Nat
  | .nothing, _, _, next | .again _, _, _, next => return next
  | .single x, _, _, next => node (.single x next)
  | .edge e, _, _, next => node (.edge e next)
  | .group n (.group _ r), isOptional, isCopy, next => do
    node (.enter n (← build r false isCopy (← node (.leave n isOptional next))))
  | .group n r, isOptional, isCopy, next => do
    node (.enter n (← build r false isCopy (← node (.leave n isOptional next))))
  | .both a b, _, isCopy, next => do build a false isCopy (← build b false isCopy next)
  | .either a b, _, isCopy, next => do
    let first ← if isNull a then pure next else build a false isCopy next
    let second ← if isNull b then pure next else build b false isCopy next
    node (if isNull a then .fork second first else .fork first second)
  | .repetition r least most, _, isCopy, next => do
    if isNull r then return next
    let copy := build r false true
    let optional := build r (!isCopy) (isCopy || 0 < least)
    let behind ← match most with
      | none => anyNumber optional next
      | some most =>
        if most ≤ least then pure next else atMost optional copy (most - least - 1) next
    if least = 0 then return behind
    build r false isCopy (← inFront copy (least - 1) behind)

def graph (r : Regex) : Graph :=
  let (start, nodes) := (build r false false 0).run #[.final]
  ⟨nodes, start⟩

/-- The groups directly inside other ones, each with the one that it stands for the same as. -/
def merged : Regex → List (Nat × Nat)
  | .nothing | .single _ | .edge _ | .again _ => []
  | .group n (.group m r) => (m, n) :: merged r
  | .group _ r | .repetition r _ _ => merged r
  | .both a b | .either a b => merged a ++ merged b

namespace Graph

/-! ### Ends of matches -/

/-- The nodes that are reached from others without passing a character, and those of them that
ask for one. -/
def reachedFrom (g : Graph) (isAt : Edge → Bool) :
    Nat → List Nat → Array Bool × List Nat → Array Bool × List Nat
  | 0, _, r | _, [], r => r
  | fuel + 1, n :: more, (seen, singles) =>
    if seen[n]?.getD true then reachedFrom g isAt fuel more (seen, singles)
    else
      let seen := seen.set! n true
      match g.nodes[n]? with
      | some (.single _ _) => reachedFrom g isAt fuel more (seen, n :: singles)
      | some (.edge e next) =>
        reachedFrom g isAt fuel (if isAt e then next :: more else more) (seen, singles)
      | some (.fork first second) =>
        reachedFrom g isAt fuel (first :: second :: more) (seen, singles)
      | some (.enter _ next) | some (.leave _ _ next) =>
        reachedFrom g isAt fuel (next :: more) (seen, singles)
      | some .final | none => reachedFrom g isAt fuel more (seen, singles)

/-- Whether the end of the graph is reached from nodes without passing a character, and the
nodes that ask for one. -/
def reached (g : Graph) (isAt : Edge → Bool) (nodes : List Nat) : Bool × List Nat :=
  let size := g.nodes.size
  let (seen, singles) :=
    g.reachedFrom isAt (3 * size + nodes.length + 1) nodes (Array.replicate size false, [])
  (seen[0]? = some true, singles)

/-- The character that a node asks for. -/
def single? (g : Graph) (n : Nat) : Option Single :=
  match g.nodes[n]? with
  | some (.single x _) => some x
  | _ => none

/-- What a match can begin with, unless it can be empty. -/
def firsts? (g : Graph) : Option (List Single) :=
  let (isEmpty, singles) := g.reached (fun _ => true) [g.start]
  if isEmpty then none else some (singles.filterMap g.single?)

/-- Where a node that asks for a character leads when it gets one. -/
def passing? (g : Graph) (s : Subject) (c : Char) (n : Nat) : Option Nat :=
  match g.nodes[n]? with
  | some (.single x next) => if s.accepts x c then some next else none
  | _ => none

/-- Where matches end, in order, given the nodes that have been reached at a place. -/
def endsFrom (g : Graph) (s : Subject) : Nat → (i : Nat) → List Nat → List Nat
  | 0, _, _ => []
  | fuel + 1, i, nodes =>
    let (isEnd, singles) := g.reached (s.isAt · i) nodes
    let behind := match s.text[i]? with
      | none => []
      | some c =>
        match singles.filterMap (g.passing? s c) with
        | [] => []
        | nodes => endsFrom g s fuel (i + 1) nodes
    if isEnd then i :: behind else behind

/-- Where matches end that begin at a place. -/
def ends (g : Graph) (s : Subject) (start : Nat) : List Nat :=
  g.endsFrom s (s.text.size - start + 1) start [g.start]

/-! ### Groups -/

/-- Goes back once along nodes that pass no character. -/
def spread (g : Graph) (isAt : Edge → Bool) (reaching : Array Bool) : Array Bool :=
  (List.range g.nodes.size).foldl (fun reaching n =>
    let leads (next : Nat) : Bool := reaching[next]?.getD false
    let reaches := match g.nodes[n]? with
      | some (.edge e next) => isAt e && leads next
      | some (.fork first second) => leads first || leads second
      | some (.enter _ next) | some (.leave _ _ next) => leads next
      | some (.single _ _) | some .final | none => false
    if reaches then reaching.set! n true else reaching) reaching

/-- Goes back along nodes that pass no character until no more nodes are found. -/
def spreadAll (g : Graph) (isAt : Edge → Bool) : Nat → Array Bool → Array Bool
  | 0, reaching => reaching
  | fuel + 1, reaching =>
    let more := g.spread isAt reaching
    if more = reaching then reaching else spreadAll g isAt fuel more

/-- The nodes from which the end of the graph can be reached at the end of a match, for each
place from a start on, when these edges are passed at the end of the match. -/
def reachingBy (g : Graph) (s : Subject) (start last : Nat) (isAtEnd : Edge → Bool) :
    List (Array Bool) :=
  let size := g.nodes.size
  let atEnd := g.spreadAll isAtEnd size ((Array.replicate size false).set! 0 true)
  ((List.range (last - start)).reverse.foldl (fun (behind : List (Array Bool)) k =>
    let i := start + k
    let next := behind.headD #[]
    let passing := g.nodes.map fun node => match node, s.text[i]? with
      | .single x n, some c => s.accepts x c && next[n]?.getD false
      | _, _ => false
    g.spreadAll (s.isAt · i) size passing :: behind) [atEnd])

/-- The nodes from which the end of the graph can be reached, for each place from a start on.
Ways that pass no edge at the end of the match come before all others. -/
def reaching (g : Graph) (s : Subject) (start last : Nat) : List (Array Bool) :=
  let plain := g.reachingBy s start last fun _ => false
  if ((plain.headD #[])[g.start]?).getD false then plain
  else g.reachingBy s start last (s.isAt · last)

/-- What the groups stand for; a group may be open. -/
abbrev Registers := Array (Option (Nat × Option Nat))

/-- The groups on the way, and as they were when a group last matched something. -/
structure Walk where
  groups : Registers
  kept : Registers

/-- The groups when a node is passed at a place. -/
def Walk.passed (w : Walk) (n : Node) (i : Nat) : Walk :=
  match n with
  | .enter k _ => { w with groups := w.groups.set! k (some (i, none)) }
  | .leave k isOptional _ =>
    let first := ((w.groups[k]?.join).map (·.1)).getD i
    let closed := w.groups.set! k (some (first, some i))
    if first < i then ⟨closed, closed⟩
    else if isOptional && (w.kept[k]?.join).isSome then { w with groups := w.kept }
    else { w with groups := closed }
  | .final | .single _ _ | .edge _ _ | .fork _ _ => w

/-- Follows the way from a node to the end of a match. `visited` are the forks since the last
character. -/
def follow (g : Graph) (s : Subject) :
    Nat → (n i : Nat) → (visited : List Nat) → List (Array Bool) → Walk → Walk
  | 0, _, _, _, _, w => w
  | fuel + 1, n, i, visited, reaching, w =>
    match g.nodes[n]? with
    | none => w
    | some here =>
      let w := w.passed here i
      let leads (next : Nat) : Bool := ((reaching.headD #[])[next]?).getD false
      match here with
      | .final => w
      | .single _ next => follow g s fuel next (i + 1) [] reaching.tail w
      | .edge _ next | .enter _ next | .leave _ _ next =>
        follow g s fuel next i (n :: visited) reaching w
      | .fork first second =>
        let isFirst := leads first && !(leads second && first ∈ n :: visited)
        follow g s fuel (if isFirst then first else second) i (n :: visited) reaching w

/-- What the groups stand for in a match. -/
def groups (g : Graph) (s : Subject) (mostGroup start last : Nat) : List (Nat × Nat × Nat) :=
  let unset : Registers := Array.replicate (mostGroup + 1) none
  let w := g.follow s ((last - start + 1) * (2 * g.nodes.size + 1)) g.start start []
    (g.reaching s start last) ⟨unset, unset⟩
  (List.range (mostGroup + 1)).filterMap fun n =>
    match w.groups[n]?.join with
    | some (first, some last) => some (n, first, last)
    | _ => none

end Graph
end StyleSnapshot.Shell.Tool.Regex
